import Carros.Catalogue.CarroForm

/-!
# The car in the form

`_onClickSalvar` writes the fields of the form into the object it was opened with, and
`CarrosApi.save` writes the url of an uploaded photo into it, both before the outcome of the save is
known; nothing writes the old values back.  What a save leaves in the object, after an error too, is
`salvar_recusado`.

Whether an upload succeeded is decided by `UploadApi.upload`, which reads the key `url` of the body
whatever the status, and takes a missing url for a url: it reports some uploads as ok that the
server refused.  `salvar_recusado` leaves these aside, and `foto_preservada_iff` says when the photo
the car had survives them.
-/

namespace Carros

open Dart

variable {σ : Type}

/-! ## The upload -/

/-- The upload is reported as ok with the value `url`, accepted or not: there is a user for the
headers, and the body is an object with this value, `null` if there is none, under the key `url`. -/
def UploadApi.Carrega (stored : Option String) (foto : Foto) (url : Option String) : Prop :=
  (∃ hs, headers stored = .ok hs) ∧ ∃ r, ∃ map : DynMap, foto = .ok r ∧
    jsonDecode r.body = some (.map map) ∧ map.get "url" = .ofString url

/-- The server accepted the photo and answered with its url. -/
def Foto.Aceita (foto : Foto) (url : String) : Prop :=
  ∃ r, ∃ map : DynMap, foto = .ok r ∧ (200 ≤ r.statusCode ∧ r.statusCode < 300) ∧
    jsonDecode r.body = some (.map map) ∧ map.get "url" = .str url

/-- The upload succeeded: there is a user for the headers, and the server accepted the photo. -/
def UploadApi.Aceita (stored : Option String) (foto : Foto) (url : String) : Prop :=
  (∃ hs, headers stored = .ok hs) ∧ foto.Aceita url

/-- The upload is an error: there is no user for the headers, or no answer, or its body is not an
object with a string or `null` under the key `url`. -/
def UploadApi.Falha (stored : Option String) (foto : Foto) : Prop :=
  ∀ url, ¬ Carrega stored foto url

namespace UploadApi

/-- An upload either is reported as ok with a value, or is an error. -/
lemma upload_cases (stored : Option String) (foto : Foto) :
    (∃ url, Carrega stored foto url ∧ upload stored foto = .success url) ∨
      Falha stored foto ∧ (upload stored foto).ok = false := by
  rw [upload]
  split
  · rename_i url h
    obtain ⟨hs, hheaders, h⟩ := bind_eq_ok.mp h
    obtain ⟨r, hr, h⟩ := bind_eq_ok.mp h
    cases hbody : jsonDecode r.body with
    | none => simp [hbody] at h
    | some d =>
      simp only [hbody] at h
      obtain ⟨map, hmap, hurl⟩ := bind_eq_ok.mp h
      rw [Dyn.asMap_eq_ok.mp hmap] at hbody
      exact Or.inl ⟨url, ⟨⟨hs, hheaders⟩, r, map, hr, hbody, Dyn.asString_eq_ok.mp hurl⟩, rfl⟩
  · rename_i e h
    refine Or.inr ⟨?_, rfl⟩
    rintro url ⟨⟨hs, hheaders⟩, r, map, rfl, hbody, hurl⟩
    simp [hheaders, hbody, hurl] at h

/-- There is at most one such value. -/
lemma Carrega.unique {stored : Option String} {foto : Foto} {url url' : Option String}
    (h : Carrega stored foto url) (h' : Carrega stored foto url') : url = url' := by
  obtain ⟨-, r, map, rfl, hbody, hurl⟩ := h
  obtain ⟨-, r', map', hr, hbody', hurl'⟩ := h'
  obtain rfl := Except.ok.inj hr
  obtain rfl := Dyn.map.inj (Option.some.inj (hbody.symm.trans hbody'))
  have hok := Dyn.asString_eq_ok.mpr hurl
  rw [Dyn.asString_eq_ok.mpr hurl'] at hok
  exact (Except.ok.inj hok).symm

/-- An upload that succeeded is reported as ok with its url. -/
lemma Aceita.carrega {stored : Option String} {foto : Foto} {url : String}
    (h : Aceita stored foto url) : Carrega stored foto (some url) := by
  obtain ⟨hheaders, r, map, hr, -, hbody, hurl⟩ := h
  exact ⟨hheaders, r, map, hr, hbody, hurl⟩

end UploadApi

namespace CarrosApi

/-- A save with a photo sets the url to the value the upload is reported as ok with, and leaves the
car alone if there is none. -/
lemma enviarFoto_cases (stored : Option String) (c : Carro) (foto : Foto) :
    (∃ url, UploadApi.Carrega stored foto url ∧
      enviarFoto stored c (some foto) = { c with urlFoto := url }) ∨
      UploadApi.Falha stored foto ∧ enviarFoto stored c (some foto) = c := by
  rcases UploadApi.upload_cases stored foto with ⟨url, hcarrega, hupload⟩ | ⟨hno, hupload⟩
  · exact Or.inl ⟨url, hcarrega, by rw [enviarFoto, hupload]; rfl⟩
  · exact Or.inr ⟨hno, by simp [enviarFoto, hupload]⟩

/-- The car a save leaves is the car with the photo sent. -/
lemma carro_save (transport : Transport σ) (stored : Option String) (c : Carro)
    (file : Option Foto) (w : σ) :
    (save transport stored c file w).2.1 = enviarFoto stored c file := by
  rw [save]
  cases headers stored <;> rfl

/-- Every request a save sends has the car it leaves for a body. -/
lemma body_of_mem_save {transport : Transport σ} {stored : Option String} {c : Carro}
    {file : Option Foto} {w : σ} {req : Request}
    (h : req ∈ (save (registra transport) stored c file (w, [])).2.2.2) :
    req.body = some (enviarFoto stored c file).toJson := by
  rw [save] at h
  cases hheaders : headers stored with
  | error e => simp [hheaders] at h
  | ok hs =>
    simp only [hheaders, request, registra, List.nil_append, List.mem_singleton] at h
    rw [h]

end CarrosApi

/-! ## A failed save -/

/-- What `_onClickSalvar` leaves in the object it was opened with: the fields of the form, the url
of an upload that succeeded, and the other fields as they were.  Of the url it says nothing after an
upload that is reported as ok although it did not succeed. -/
structure CarroFormPage.Regravado (stored : Option String) (carro : Carro) (form : Formulario)
    (c : Carro) : Prop where
  id : c.id = carro.id
  nome : c.nome = some form.nome
  descricao : c.descricao = some form.descricao
  tipo : c.tipo = some (getTipo form.radioIndex)
  semFoto : form.file = none → c.urlFoto = carro.urlFoto
  comErro : ∀ foto, form.file = some foto → UploadApi.Falha stored foto →
    c.urlFoto = carro.urlFoto
  comFoto : ∀ foto url, form.file = some foto → UploadApi.Aceita stored foto url →
    c.urlFoto = some url
  urlVideo : c.urlVideo = carro.urlVideo
  latitude : c.latitude = carro.latitude
  longitude : c.longitude = carro.longitude

/-- There is no upload, or it is an error, or it succeeded. -/
def CarroFormPage.UploadFiel (stored : Option String) (form : Formulario) : Prop :=
  ∀ foto, form.file = some foto →
    UploadApi.Falha stored foto ∨ ∃ url, UploadApi.Aceita stored foto url

/-- The form and an upload that succeeded have nothing new for the car. -/
def CarroFormPage.SemMudanca (stored : Option String) (carro : Carro) (form : Formulario) : Prop :=
  carro.nome = some form.nome ∧ carro.descricao = some form.descricao ∧
    carro.tipo = some (getTipo form.radioIndex) ∧
    ∀ foto url, form.file = some foto → UploadApi.Aceita stored foto url →
      carro.urlFoto = some url

namespace CarroFormPage

/-- A valid form is saved, and the object is left as the save leaves it. -/
lemma onClickSalvar_eq (transport : Transport σ) (stored : Option String) (carro : Option Carro)
    {form : Formulario} (hvalid : validateNome form.nome = none) (w : σ) :
    ∃ saida, onClickSalvar transport stored carro form w = some saida ∧
      saida.carro = CarrosApi.enviarFoto stored (preencher carro form) form.file ∧
      saida.response =
        (CarrosApi.save transport stored (preencher carro form) form.file w).1 := by
  refine ⟨_, by simp only [onClickSalvar, hvalid]; rfl, ?_, rfl⟩
  exact CarrosApi.carro_save transport stored (preencher carro form) form.file w

/-- Writing the form and sending the photo changes four fields. -/
lemma regravado_enviarFoto (stored : Option String) (carro : Carro) (form : Formulario) :
    Regravado stored carro form
      (CarrosApi.enviarFoto stored (preencher (some carro) form) form.file) := by
  cases hfile : form.file with
  | none =>
    refine ⟨rfl, rfl, rfl, rfl, fun _ => rfl, fun foto h => ?_, fun foto url h => ?_, rfl, rfl, rfl⟩
    · simp [hfile] at h
    · simp [hfile] at h
  | some foto =>
    have hfoto : ∀ foto', form.file = some foto' → foto' = foto := by
      intro foto' h
      exact (Option.some.inj (hfile.symm.trans h)).symm
    rcases CarrosApi.enviarFoto_cases stored (preencher (some carro) form) foto with
      ⟨url, hcarrega, henviar⟩ | ⟨hfalha, henviar⟩
    · rw [henviar]
      refine ⟨rfl, rfl, rfl, rfl, fun h => by simp [hfile] at h, fun foto' h hfalha => ?_,
        fun foto' url' h haceita => ?_, rfl, rfl, rfl⟩
      · obtain rfl := hfoto foto' h
        exact absurd hcarrega (hfalha url)
      · obtain rfl := hfoto foto' h
        exact hcarrega.unique haceita.carrega
    · rw [henviar]
      refine ⟨rfl, rfl, rfl, rfl, fun _ => rfl, fun _ _ _ => rfl, fun foto' url' h haceita => ?_,
        rfl, rfl, rfl⟩
      obtain rfl := hfoto foto' h
      exact absurd haceita.carrega (hfalha _)

/-- Unless an upload is reported as ok that did not succeed, the object is as it was exactly if
there was nothing new for it. -/
lemma Regravado.eq_iff {stored : Option String} {carro c : Carro} {form : Formulario}
    (h : Regravado stored carro form c) (hfiel : UploadFiel stored form) :
    c = carro ↔ SemMudanca stored carro form := by
  constructor
  · rintro rfl
    exact ⟨h.nome, h.descricao, h.tipo, h.comFoto⟩
  · rintro ⟨hnome, hdescricao, htipo, hfoto⟩
    have hurl : c.urlFoto = carro.urlFoto := by
      cases hfile : form.file with
      | none => exact h.semFoto hfile
      | some foto =>
        rcases hfiel foto hfile with hfalha | ⟨url, haceita⟩
        · exact h.comErro foto hfile hfalha
        · rw [h.comFoto foto url hfile haceita, hfoto foto url hfile haceita]
    obtain ⟨id, nome, tipo, descricao, urlFoto, urlVideo, latitude, longitude⟩ := c
    obtain ⟨id', nome', tipo', descricao', urlFoto', urlVideo', latitude', longitude'⟩ := carro
    have hid := h.id
    have hnome' := h.nome.trans hnome.symm
    have hdescricao' := h.descricao.trans hdescricao.symm
    have htipo' := h.tipo.trans htipo.symm
    have hvideo := h.urlVideo
    have hlatitude := h.latitude
    have hlongitude := h.longitude
    simp only at hid hnome' hdescricao' htipo' hvideo hlatitude hlongitude hurl
    subst hid hnome' hdescricao' htipo' hvideo hlatitude hlongitude hurl
    rfl

end CarroFormPage

/-- **A failed save.**  Whatever the upload and the save come to, `_onClickSalvar` leaves the fields
of the form in the car it was opened with, and keeps the others.  The url of the photo is that of an
upload that succeeded, and the old one without an upload or after one that is an error; so, unless
an upload is reported as ok that did not succeed, after an error of the save the car is as it was
exactly if there was nothing new for it. -/
theorem salvar_recusado (transport : Transport σ) (stored : Option String) (carro : Carro)
    (form : Formulario) (hvalid : CarroFormPage.validateNome form.nome = none) (w : σ) :
    ∃ saida, CarroFormPage.onClickSalvar transport stored (some carro) form w = some saida ∧
      CarroFormPage.Regravado stored carro form saida.carro ∧
      (saida.response.ok = false → CarroFormPage.UploadFiel stored form →
        (saida.carro = carro ↔ CarroFormPage.SemMudanca stored carro form)) := by
  obtain ⟨saida, hsaida, hcarro, -⟩ :=
    CarroFormPage.onClickSalvar_eq transport stored (some carro) hvalid w
  have hregravado := CarroFormPage.regravado_enviarFoto stored carro form
  rw [← hcarro] at hregravado
  exact ⟨saida, hsaida, hregravado, fun _ hfiel => hregravado.eq_iff hfiel⟩

/-- An edit of `descricao` with a new photo that the server accepts, saved while the server does not
answer: the car has both. -/
theorem salvar_recusado_descricao :
    let stored := some "\x7b\"roles\":[]\x7d"
    let fusca : Carro :=
      { id := some 1, nome := some "Fusca", tipo := some "classicos", descricao := some "1968",
        urlFoto := some "fusca.jpg" }
    let foto : Foto := .ok ⟨200, jsonEncode (.map [("url", .str "nova.jpg")])⟩
    let form : Formulario := ⟨"Fusca", "1969", 0, some foto⟩
    let server : Transport Unit := fun _ w => (.error .transport, w)
    ∃ saida, CarroFormPage.onClickSalvar server stored (some fusca) form () = some saida ∧
      saida.carro.descricao = some "1969" ∧ saida.carro.urlFoto = some "nova.jpg" ∧
      (saida.response.ok = false → saida.carro ≠ fusca) := by
  intro stored fusca foto form server
  obtain ⟨hs, hheaders⟩ := exists_headers_semRoles
  have haceita : UploadApi.Aceita stored foto "nova.jpg" :=
    ⟨⟨hs, hheaders⟩, _, [("url", .str "nova.jpg")], rfl, by decide, jsonDecode_jsonEncode _, rfl⟩
  obtain ⟨saida, hsaida, hregravado, hiff⟩ :=
    salvar_recusado server stored fusca form (by decide) ()
  refine ⟨saida, hsaida, hregravado.descricao, hregravado.comFoto foto _ rfl haceita, ?_⟩
  intro herro heq
  have hfiel : CarroFormPage.UploadFiel stored form := by
    intro foto' hfoto'
    obtain rfl := Option.some.inj hfoto'
    exact Or.inr ⟨_, haceita⟩
  obtain ⟨-, hdescricao, -⟩ := (hiff herro hfiel).mp heq
  exact absurd hdescricao (by decide)

/-- The same edit without a photo: the save reports an error, and the car has the new
description. -/
theorem salvar_recusado_fails :
    let stored := some "\x7b\"roles\":[]\x7d"
    let fusca : Carro :=
      { id := some 1, nome := some "Fusca", tipo := some "classicos", descricao := some "1968" }
    let form : Formulario := ⟨"Fusca", "1969", 0, none⟩
    let server : Transport Unit := fun _ w => (.error .transport, w)
    ∃ saida, CarroFormPage.onClickSalvar server stored (some fusca) form () = some saida ∧
      saida.response.ok = false ∧ saida.carro.descricao = some "1969" ∧ saida.carro ≠ fusca := by
  intro stored fusca form server
  obtain ⟨saida, hsaida, hcarro, hresponse⟩ :=
    CarroFormPage.onClickSalvar_eq server stored (some fusca)
      (show CarroFormPage.validateNome form.nome = none by decide) ()
  have hdescricao : saida.carro.descricao = some "1969" := by
    rw [hcarro]
    rfl
  refine ⟨saida, hsaida, ?_, hdescricao, fun h => ?_⟩
  · obtain ⟨hs, hheaders⟩ := exists_headers_semRoles
    rw [hresponse]
    simp only [CarrosApi.save, request, stored, hheaders]
    rfl
  · rw [h] at hdescricao
    exact absurd hdescricao (by decide)

/-! ## The photo -/

/-- The url is the one the car had, or one the server answered the photo with. -/
def FotoPreservada (c : Carro) (foto : Foto) (url : Option String) : Prop :=
  url = c.urlFoto ∨ ∃ nova, foto.Aceita nova ∧ url = some nova

/-- What an upload is reported as ok with is the url the car had, or one the server answered the
photo with. -/
def CargaFiel (stored : Option String) (c : Carro) (foto : Foto) : Prop :=
  ∀ url, UploadApi.Carrega stored foto url →
    url = c.urlFoto ∨ (∃ r, foto = .ok r ∧ 200 ≤ r.statusCode ∧ r.statusCode < 300) ∧ url ≠ none

/-- The car in the body of the request has the url for its photo. -/
def Request.LevaFoto (req : Request) (url : Option String) : Prop :=
  ∃ body, ∃ map : DynMap, req.body = some body ∧ jsonDecode body = some (.map map) ∧
    map.get "urlFoto" = .ofString url

/-- What an upload is reported as ok with preserves the photo if it is a url of the server. -/
lemma UploadApi.Carrega.fotoPreservada_iff {stored : Option String} {c : Carro} {foto : Foto}
    {url : Option String} (h : Carrega stored foto url) :
    FotoPreservada c foto url ↔ CargaFiel stored c foto := by
  constructor
  · intro hurl url' hcarrega
    obtain rfl := h.unique hcarrega
    rcases hurl with hold | ⟨nova, ⟨r, -, hr, hstatus, -⟩, rfl⟩
    · exact Or.inl hold
    · exact Or.inr ⟨⟨r, hr, hstatus⟩, by simp⟩
  · intro hfiel
    rcases hfiel url h with hold | ⟨⟨r, hr, hstatus⟩, hne⟩
    · exact Or.inl hold
    · obtain ⟨nova, rfl⟩ := Option.ne_none_iff_exists'.mp hne
      obtain ⟨-, r', map, hr', hbody, hurl⟩ := h
      obtain rfl := Except.ok.inj (hr.symm.trans hr')
      exact Or.inr ⟨nova, ⟨r, map, hr, hstatus, hbody, hurl⟩, rfl⟩

/-- **The photo and its upload.**  The url in the car that a save with a photo leaves, and in the
body of the request it sends, is the one the car had or one the server answered the photo with,
exactly if this holds of the url that the upload is reported as ok with. -/
theorem foto_preservada_iff (transport : Transport σ) (stored : Option String) (c : Carro)
    (foto : Foto) (w : σ) :
    let saida := CarrosApi.save (registra transport) stored c (some foto) (w, [])
    (FotoPreservada c foto saida.2.1.urlFoto ∧
      ∀ req ∈ saida.2.2.2, ∃ url, req.LevaFoto url ∧ FotoPreservada c foto url) ↔
    CargaFiel stored c foto := by
  intro saida
  have hcarro : saida.2.1 = CarrosApi.enviarFoto stored c (some foto) :=
    CarrosApi.carro_save _ stored c (some foto) (w, [])
  have hleva : ∀ req ∈ saida.2.2.2, req.LevaFoto saida.2.1.urlFoto := by
    intro req hreq
    refine ⟨_, _, CarrosApi.body_of_mem_save hreq, jsonDecode_jsonEncode _, ?_⟩
    rw [hcarro, get_rereadEntries, (Carro.get_toMap _).2.2.1.1, Dyn.reread_ofString]
  have hiff : FotoPreservada c foto saida.2.1.urlFoto ↔ CargaFiel stored c foto := by
    rw [hcarro]
    rcases CarrosApi.enviarFoto_cases stored c foto with ⟨url, hcarrega, henviar⟩ | ⟨hno, henviar⟩
    · rw [henviar]
      exact hcarrega.fotoPreservada_iff
    · rw [henviar]
      exact ⟨fun _ url hcarrega => absurd hcarrega (hno url), fun _ => Or.inl rfl⟩
  constructor
  · intro h
    exact hiff.mp h.1
  · intro h
    exact ⟨hiff.mpr h, fun req hreq => ⟨_, hleva req hreq, hiff.mpr h⟩⟩

/-- An upload that the server refused with a JSON object: the photo of the car is gone. -/
theorem foto_preservada_fails :
    let stored := some "\x7b\"roles\":[]\x7d"
    let fusca : Carro := { id := some 1, nome := some "Fusca", urlFoto := some "fusca.jpg" }
    let foto : Foto := .ok ⟨500, "\x7b\"error\":\"erro\"\x7d"⟩
    let server : Transport Unit := fun _ w => (.error .transport, w)
    let saida := CarrosApi.save (registra server) stored fusca (some foto) ((), [])
    saida.2.1.urlFoto = none ∧ ¬ FotoPreservada fusca foto saida.2.1.urlFoto := by
  intro stored fusca foto server saida
  have hnone : saida.2.1.urlFoto = none := by
    rw [show saida.2.1 = _ from CarrosApi.carro_save _ stored fusca (some foto) ((), [])]
    decide +kernel
  refine ⟨hnone, ?_⟩
  rw [hnone]
  rintro (hold | ⟨nova, -, hnova⟩)
  · exact absurd hold (by decide)
  · cases hnova

end Carros
