import Carros.Base.Base64
import Carros.Http.CarrosApi

/-!
# Photos

`UploadApi.upload` of `pages/carros/upload_api.dart` with the file it sends, and `CarrosApi.save`
with a file, which sends two requests one after the other.  `path.basename` is a parameter.

What a file contributes to the rest of the model is what its upload comes back with, its `Foto`:
`CarrosApi.saveArquivo_eq` says that nothing else matters.

`CarrosApi.pedidos_save` lists the requests of a save with a file.  The first of them carries the
name and the bytes of the file, the second the car as the upload left it.
-/

namespace Carros

open Dart

variable {σ : Type}

/-- A chosen file: its path, and what `readAsBytesSync` gives. -/
structure Arquivo where
  path : String
  bytes : Except DartError (List UInt8)
  deriving DecidableEq

/-- `base64Encode`. -/
def base64Encode (bytes : List UInt8) : String := String.ofList (Base64.encode bytes)

/-- The bytes a text stands for. -/
def base64Decode (text : String) : Option (List UInt8) := Base64.decode text.toList

/-- The bytes of a file are read back from its text. -/
@[simp] lemma base64Decode_base64Encode (bytes : List UInt8) :
    base64Decode (base64Encode bytes) = some bytes := by
  rw [base64Decode, base64Encode, String.toList_ofList]
  exact Base64.decode_encode bytes

/-- The URL of the uploads. -/
def urlUpload : String := "https://carros-springboot.herokuapp.com/api/v1/upload"

namespace UploadApi

/-- The parameters of an upload. -/
def params (fileName : String) (imageBytes : List UInt8) : DynMap :=
  [("fileName", .str fileName), ("mimeType", .str "image/jpeg"),
    ("base64", .str (base64Encode imageBytes))]

/-- The request of an upload, but for the headers. -/
def pedido (basename : String → String) (path : String) (imageBytes : List UInt8) : String :=
  jsonEncode (.map (params (basename path) imageBytes))

/-- The URL in the body of the answer. -/
def lerUrl (body : String) : Except DartError (Option String) :=
  match jsonDecode body with
  | none => .error .formatException
  | some d => do
    let map ← d.asMap
    (map.get "url").asString

/-- `UploadApi.upload`, of a file; that the time is up is one way not to get an answer. -/
def uploadArquivo (basename : String → String) (transport : Transport σ) (stored : Option String)
    (file : Arquivo) (w : σ) : ApiResponse String × σ :=
  let tried : Except DartError (Option String) × σ :=
    match file.bytes with
    | .error e => (.error e, w)
    | .ok imageBytes =>
      let (answer, w') := request transport stored .post urlUpload
        (some (pedido basename file.path imageBytes)) w
      (answer.bind fun response => lerUrl response.body, w')
  match tried with
  | (.ok urlFoto, w') => (.success urlFoto, w')
  | (.error _, w') => (.failure (some "Não foi possível fazer o upload"), w')

/-- What the upload of a file comes back with. -/
def foto (basename : String → String) (transport : Transport σ) (stored : Option String)
    (file : Arquivo) (w : σ) : Foto × σ :=
  match file.bytes with
  | .error e => (.error e, w)
  | .ok imageBytes =>
    request transport stored .post urlUpload (some (pedido basename file.path imageBytes)) w

/-- What a server reads in the body of an upload. -/
def lerPedido (body : String) : Option (String × List UInt8) := do
  let d ← jsonDecode body
  let map ← d.asMap.toOption
  let fileName ← (← (map.get "fileName").asString.toOption)
  let text ← (← (map.get "base64").asString.toOption)
  let bytes ← base64Decode text
  return (fileName, bytes)

/-- The parameters of an upload by their keys. -/
lemma get_params (fileName : String) (imageBytes : List UInt8) :
    (params fileName imageBytes).get "fileName" = .str fileName ∧
      (params fileName imageBytes).get "base64" = .str (base64Encode imageBytes) := by
  simp [params, DynMap.get, List.lookup_cons]

/-- The name and the bytes of the file are what a server reads. -/
@[simp] lemma lerPedido_pedido (basename : String → String) (path : String)
    (imageBytes : List UInt8) :
    lerPedido (pedido basename path imageBytes) = some (basename path, imageBytes) := by
  obtain ⟨hnome, htexto⟩ := get_params (basename path) imageBytes
  have hreread : rereadEntries (params (basename path) imageBytes) =
      params (basename path) imageBytes := rfl
  simp [lerPedido, pedido, jsonDecode_jsonEncode, hreread, hnome, htexto, Dyn.asString,
    Except.toOption]

/-- An upload reports what the answer says, if there are headers. -/
lemma upload_of_headers {stored : Option String} {hs : List (String × String)}
    (hh : headers stored = .ok hs) (foto : Foto) :
    upload stored foto =
      match foto.bind fun response => lerUrl response.body with
      | .ok urlFoto => .success urlFoto
      | .error _ => .failure (some "Não foi possível fazer o upload") := by
  rw [upload, hh]
  rfl

/-- What an upload reports depends on what it comes back with. -/
lemma uploadArquivo_eq (basename : String → String) (transport : Transport σ)
    (stored : Option String) (file : Arquivo) (w : σ) :
    uploadArquivo basename transport stored file w =
      (upload stored (foto basename transport stored file w).1,
        (foto basename transport stored file w).2) := by
  obtain ⟨path, bytes⟩ := file
  cases bytes with
  | error e =>
    cases hh : headers stored <;> simp [uploadArquivo, foto, upload, hh]
  | ok imageBytes =>
    simp only [uploadArquivo, foto]
    cases hanswer : request transport stored .post urlUpload
        (some (pedido basename path imageBytes)) w with
    | mk answer w' =>
    cases hh : headers stored with
    | error e =>
      obtain ⟨rfl, rfl⟩ : (.error e, w) = (answer, w') := by rw [← hanswer, request, hh]
      simp [upload, hh, Except.bind]
    | ok hs =>
      rw [upload_of_headers hh]
      cases answer.bind fun response => lerUrl response.body <;> rfl

end UploadApi

namespace CarrosApi

/-- `CarrosApi.save` with a file or none.  After the upload it goes on as a save without a file. -/
def saveArquivo (basename : String → String) (transport : Transport σ) (stored : Option String)
    (c : Carro) (file : Option Arquivo) (w : σ) : ApiResponse Bool × Carro × σ :=
  match file with
  | none => save transport stored c none w
  | some file =>
    let (response, w') := UploadApi.uploadArquivo basename transport stored file w
    save transport stored (if response.ok then { c with urlFoto := response.result } else c) none w'

/-- A save with a file is the save with what its upload comes back with. -/
theorem saveArquivo_eq (basename : String → String) (transport : Transport σ)
    (stored : Option String) (c : Carro) (file : Arquivo) (w : σ) :
    saveArquivo basename transport stored c (some file) w =
      save transport stored c (some (UploadApi.foto basename transport stored file w).1)
        (UploadApi.foto basename transport stored file w).2 := by
  simp only [saveArquivo, UploadApi.uploadArquivo_eq, save, enviarFoto]

/-- A wrapper that has its headers sends one request, which is kept. -/
lemma request_registra {stored : Option String} {hs : List (String × String)}
    (hh : headers stored = .ok hs) (transport : Transport σ) (method : Method) (url : String)
    (body : Option String) (w : σ) (reqs : List Request) :
    request (registra transport) stored method url body (w, reqs) =
      ((transport ⟨method, url, hs, body⟩ w).1, (transport ⟨method, url, hs, body⟩ w).2,
        reqs ++ [⟨method, url, hs, body⟩]) := by
  rw [request, hh]
  rfl

/-- The upload of a file that can be read is one request, and there is none of any other file. -/
lemma registrado_foto {stored : Option String} {hs : List (String × String)}
    (hh : headers stored = .ok hs) (basename : String → String) (transport : Transport σ)
    (file : Arquivo) (w : σ) :
    (UploadApi.foto basename (registra transport) stored file (w, [])).2.2 =
      (file.bytes.toOption.map fun imageBytes => (⟨.post, urlUpload, hs,
        some (UploadApi.pedido basename file.path imageBytes)⟩ : Request)).toList := by
  cases hbytes : file.bytes with
  | error e => simp [UploadApi.foto, hbytes, Except.toOption]
  | ok imageBytes => simp [UploadApi.foto, hbytes, request_registra hh, Except.toOption]

/-- A save goes on with one request for the car. -/
lemma registrado_save {stored : Option String} {hs : List (String × String)}
    (hh : headers stored = .ok hs) (transport : Transport σ) (c : Carro) (file : Option Foto)
    (w : σ) (reqs : List Request) :
    let s := save (registra transport) stored c file (w, reqs)
    s.2.2.2 = reqs ++ [⟨saveMethod s.2.1, saveUrl s.2.1, hs, some s.2.1.toJson⟩] := by
  simp only [save, hh, request_registra hh]

/-- **The requests of a save with a file.**  Without headers nothing is sent, and the car is left as
it was.  Otherwise the upload of a file that can be read comes first, and a server reads the name
and the bytes of the file in it; then the car is sent as it is left, under its method and URL, and a
server reads all its fields, of which at most the photo is another. -/
theorem pedidos_save (basename : String → String) (transport : Transport σ)
    (stored : Option String) (c : CarroApp) (file : Arquivo) (w : σ) :
    let s := saveArquivo basename (registra transport) stored c.val (some file) (w, [])
    (∀ e, headers stored = .error e → s = (.failure (some msgSalvar), c.val, w, [])) ∧
    ∀ hs, headers stored = .ok hs → ∃ urlFoto, ∃ body : String,
      s.2.1 = { c.val with urlFoto } ∧
      (jsonDecode body).map (fun d => d.asMap >>= Carro.fromMap) = some (.ok s.2.1) ∧
      match file.bytes with
      | .ok imageBytes => ∃ envio : String,
        UploadApi.lerPedido envio = some (basename file.path, imageBytes) ∧
          s.2.2.2 = [⟨.post, urlUpload, hs, some envio⟩,
            ⟨saveMethod c.val, saveUrl c.val, hs, some body⟩]
      | .error _ => s.2.1 = c.val ∧
        s.2.2.2 = [⟨saveMethod c.val, saveUrl c.val, hs, some body⟩] := by
  obtain ⟨c, hid⟩ := c
  dsimp -zeta only
  intro s
  have hs' : s = save (registra transport) stored c
      (some (UploadApi.foto basename (registra transport) stored file (w, [])).1)
      (UploadApi.foto basename (registra transport) stored file (w, [])).2 :=
    saveArquivo_eq basename (registra transport) stored c file (w, [])
  refine ⟨fun e hh => ?_, fun hs hh => ?_⟩
  · have hfoto : (UploadApi.foto basename (registra transport) stored file (w, [])).2 =
        (w, []) := by
      cases hbytes : file.bytes <;> simp [UploadApi.foto, hbytes, request, hh]
    have hcarro : ∀ foto, enviarFoto stored c (some foto) = c := by
      intro foto
      simp [enviarFoto, UploadApi.upload, hh, ApiResponse.failure]
    rw [hs', hfoto, save, hcarro, hh]
  · have hcarro : s.2.1 = enviarFoto stored c
        (some (UploadApi.foto basename (registra transport) stored file (w, [])).1) := by
      rw [hs', save, hh]
    obtain ⟨urlFoto, hurl⟩ := exists_enviarFoto stored c
      (some (UploadApi.foto basename (registra transport) stored file (w, [])).1)
    have hlog : s.2.2.2 = (UploadApi.foto basename (registra transport) stored file (w, [])).2.2 ++
        [⟨saveMethod c, saveUrl c, hs, some s.2.1.toJson⟩] := by
      have hmethod : saveMethod s.2.1 = saveMethod c := by rw [hcarro, hurl, saveMethod, saveMethod]
      have hsaveUrl : saveUrl s.2.1 = saveUrl c := by rw [hcarro, hurl, saveUrl, saveUrl]
      rw [← hmethod, ← hsaveUrl, hs']
      exact registrado_save hh transport c _ _ _
    rw [registrado_foto hh] at hlog
    have hbody : jsonDecode s.2.1.toJson = some (.map s.2.1.toMap) := by
      rw [hcarro, hurl]
      exact Carro.jsonDecode_toJson hid
    refine ⟨urlFoto, s.2.1.toJson, hcarro.trans hurl, by simp [hbody], ?_⟩
    cases hbytes : file.bytes with
    | ok imageBytes =>
      rw [hbytes] at hlog
      exact ⟨_, UploadApi.lerPedido_pedido basename file.path imageBytes, hlog⟩
    | error e =>
      rw [hbytes] at hlog
      refine ⟨hcarro.trans ?_, hlog⟩
      simp [UploadApi.foto, hbytes, enviarFoto, UploadApi.upload, hh, ApiResponse.failure]

end CarrosApi

end Carros
