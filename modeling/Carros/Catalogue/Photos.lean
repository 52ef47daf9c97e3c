import Carros.Base.StepRun
import Carros.Catalogue.FormOutcome
import Carros.Http.Upload

/-!
# Whose photo a car shows

The objects of class `Carro`, the uploads that were started for them and have not returned, and a
server that shows every photo it got under the URL it gave for it.  Uploads for different objects,
and several for one object, overlap: an answer is written into its object whenever it arrives, after
other uploads and other requests were handled.

`Album.foto_do_carro` says that no photo goes astray: under the URL of an object the server shows a
file that was chosen for this very object, or it is the URL the object came with.
-/

namespace Carros

open Dart

variable {σ : Type}

/-- The server shows a photo it got under the URL it answered with, and goes on showing it. -/
structure ServidorDeFotos (transport : Transport σ)
    (fotos : σ → String → Option (String × List UInt8)) : Prop where
  mostra : ∀ {req : Request} {w : σ} {response : Response} {foto : String × List UInt8}
    {u : String}, req.method = .post → req.url = urlUpload →
    req.body.bind UploadApi.lerPedido = some foto → (transport req w).1 = .ok response →
    UploadApi.lerUrl response.body = .ok (some u) → fotos (transport req w).2 u = some foto
  conserva : ∀ {w : σ} {u : String} {foto : String × List UInt8} (req : Request),
    fotos w u = some foto → fotos (transport req w).2 u = some foto

/-- An upload on its way back: the object it is for, the session it read, the file, and what it
comes back with. -/
structure Envio where
  o : ℕ
  stored : Option String
  file : Arquivo
  foto : Foto

/-- The objects, the uploads on their way back, and the server. -/
structure Album (σ : Type) where
  carros : List Carro
  envios : List Envio
  world : σ

/-- What can happen. -/
inductive PassoAlbum where
  /-- A car is decoded or constructed. -/
  | alocar (c : Carro)
  /-- The form of an object is saved, which writes its fields. -/
  | preencher (o : ℕ) (form : Formulario)
  /-- The upload of a file for an object reaches the server. -/
  | upload (o : ℕ) (stored : Option String) (file : Arquivo)
  /-- An upload returns, and `save` goes on. -/
  | uploadFeito (k : ℕ)
  /-- The server gets another request. -/
  | outro (req : Request)

namespace Album

variable {transport : Transport σ} {fotos : σ → String → Option (String × List UInt8)}
  {basename : String → String} {inicio : List Carro}

/-- One step. -/
def step (basename : String → String) (transport : Transport σ) (s : Album σ) :
    PassoAlbum → Option (Album σ)
  | .alocar c => some { s with carros := s.carros ++ [c] }
  | .preencher o form =>
    (s.carros[o]?).map fun c =>
      { s with carros := s.carros.set o (CarroFormPage.preencher (some c) form) }
  | .upload o stored file =>
    (s.carros[o]?).map fun _ =>
      let (foto, world) := UploadApi.foto basename transport stored file s.world
      { s with envios := s.envios ++ [⟨o, stored, file, foto⟩], world }
  | .uploadFeito k =>
    (s.envios[k]?).bind fun e =>
      (s.carros[e.o]?).map fun c =>
        { s with
          carros := s.carros.set e.o (CarrosApi.enviarFoto e.stored c (some e.foto))
          envios := s.envios.eraseIdx k }
  | .outro req => some { s with world := (transport req s.world).2 }

/-- The cars that some steps made. -/
def criados (as : List PassoAlbum) : List Carro :=
  as.filterMap fun a =>
    match a with
    | .alocar c => some c
    | _ => none

/-- One more step. -/
lemma criados_append (as : List PassoAlbum) (a : PassoAlbum) :
    criados (as ++ [a]) = criados as ++ criados [a] := by
  rw [criados, List.filterMap_append]
  rfl

/-- The server shows a file that was sent for an object under an URL. -/
def Mostra (basename : String → String) (fotos : σ → String → Option (String × List UInt8))
    (w : σ) (before : List PassoAlbum) (o : ℕ) (u : String) : Prop :=
  ∃ stored file imageBytes, PassoAlbum.upload o stored file ∈ before ∧
    file.bytes = .ok imageBytes ∧ fotos w u = some (basename file.path, imageBytes)

/-- An object came with an URL. -/
def Trouxe (inicio : List Carro) (before : List PassoAlbum) (o : ℕ) (u : String) : Prop :=
  ∃ c, (inicio ++ criados before)[o]? = some c ∧ c.urlFoto = some u

/-- The URLs of the objects and of the uploads on their way back are theirs. -/
structure Inv (basename : String → String) (fotos : σ → String → Option (String × List UInt8))
    (inicio : List Carro) (s : Album σ) (before : List PassoAlbum) : Prop where
  tamanho : s.carros.length = (inicio ++ criados before).length
  envios : ∀ e ∈ s.envios, ∀ u, UploadApi.Carrega e.stored e.foto (some u) →
    Mostra basename fotos s.world before e.o u
  carros : ∀ (o : ℕ) c u, s.carros[o]? = some c → c.urlFoto = some u →
    Trouxe inicio before o u ∨ Mostra basename fotos s.world before o u

/-- An upload that comes back with an URL had a file that could be read, and the server shows it
there. -/
lemma mostra_foto (hserver : ServidorDeFotos transport fotos) {stored : Option String}
    {file : Arquivo} {w : σ} {u : String}
    (hu : UploadApi.Carrega stored (UploadApi.foto basename transport stored file w).1 (some u)) :
    ∃ imageBytes, file.bytes = .ok imageBytes ∧
      fotos (UploadApi.foto basename transport stored file w).2 u =
        some (basename file.path, imageBytes) := by
  obtain ⟨⟨hs, hh⟩, response, map, hanswer, hbody, hurl⟩ := hu
  cases hbytes : file.bytes with
  | error e =>
    simp only [UploadApi.foto, hbytes] at hanswer
    cases hanswer
  | ok imageBytes =>
    refine ⟨imageBytes, rfl, ?_⟩
    simp only [UploadApi.foto, hbytes, request, hh] at hanswer ⊢
    have hpedido := UploadApi.lerPedido_pedido basename file.path imageBytes
    have hlerUrl : UploadApi.lerUrl response.body = .ok (some u) := by
      rw [UploadApi.lerUrl, hbody]
      exact Dyn.asString_eq_ok.mpr hurl
    exact hserver.mostra rfl rfl (by rw [Option.bind_some, hpedido]) hanswer hlerUrl

/-- The photo of a car after an upload is the one it had, or the upload came back with it. -/
lemma urlFoto_enviarFoto {stored : Option String} {c : Carro} {foto : Foto} {u : String}
    (hu : (CarrosApi.enviarFoto stored c (some foto)).urlFoto = some u) :
    c.urlFoto = some u ∨ UploadApi.Carrega stored foto (some u) := by
  rcases CarrosApi.enviarFoto_cases stored c foto with ⟨url, hurl, henviar⟩ | ⟨-, henviar⟩
  · rw [henviar] at hu
    obtain rfl : url = some u := hu
    exact Or.inr hurl
  · rw [henviar] at hu
    exact Or.inl hu

/-- The server goes on showing what it shows. -/
lemma Mostra.outro (hs : ServidorDeFotos transport fotos) {w : σ} {before : List PassoAlbum}
    {o : ℕ} {u : String} (h : Mostra basename fotos w before o u) (req : Request) :
    Mostra basename fotos (transport req w).2 before o u := by
  obtain ⟨stored, file, imageBytes, hmem, hbytes, hfoto⟩ := h
  exact ⟨stored, file, imageBytes, hmem, hbytes, hs.conserva req hfoto⟩

/-- What was sent was sent. -/
lemma Mostra.append {w : σ} {before : List PassoAlbum} {o : ℕ} {u : String}
    (h : Mostra basename fotos w before o u) (a : PassoAlbum) :
    Mostra basename fotos w (before ++ [a]) o u := by
  obtain ⟨stored, file, imageBytes, hmem, hfoto⟩ := h
  exact ⟨stored, file, imageBytes, List.mem_append_left _ hmem, hfoto⟩

/-- What an upload does to the server. -/
lemma Mostra.foto (hserver : ServidorDeFotos transport fotos) {w : σ} {before : List PassoAlbum}
    {o : ℕ} {u : String} (h : Mostra basename fotos w before o u) (stored : Option String)
    (file : Arquivo) :
    Mostra basename fotos (UploadApi.foto basename transport stored file w).2 before o u := by
  simp only [UploadApi.foto]
  split
  · exact h
  · simp only [request]
    split
    · exact h
    · exact h.outro hserver _

/-- What an object came with it came with. -/
lemma Trouxe.append {before : List PassoAlbum} {o : ℕ} {u : String}
    (h : Trouxe inicio before o u) (a : PassoAlbum) : Trouxe inicio (before ++ [a]) o u := by
  obtain ⟨c, hc, hu⟩ := h
  refine ⟨c, ?_, hu⟩
  rw [criados_append, ← List.append_assoc]
  exact (List.getElem?_append_left (List.getElem?_eq_some_iff.mp hc).1).trans hc

/-- Writing an object whose photo is its own. -/
lemma Inv.set {s : Album σ} {before : List PassoAlbum}
    (h : s.Inv basename fotos inicio before) {o : ℕ} {c' : Carro} {envios : List Envio}
    (henvios : ∀ e ∈ envios, e ∈ s.envios)
    (hc' : ∀ u, c'.urlFoto = some u →
      Trouxe inicio before o u ∨ Mostra basename fotos s.world before o u) :
    Inv basename fotos inicio { s with carros := s.carros.set o c', envios := envios } before := by
  refine ⟨by rw [List.length_set, h.tamanho], fun e he => h.envios e (henvios e he), ?_⟩
  intro j c u hj hu
  by_cases ho : o = j
  · subst ho
    obtain ⟨hlt, rfl⟩ := List.getElem?_eq_some_iff.mp hj
    rw [List.getElem_set_self] at hu
    exact hc' u hu
  · rw [List.getElem?_set_ne ho] at hj
    exact h.carros j c u hj hu

/-- A step that creates no object and starts no upload has one more step behind it. -/
lemma Inv.append {s : Album σ} {before : List PassoAlbum}
    (h : s.Inv basename fotos inicio before) {a : PassoAlbum} (ha : criados [a] = []) :
    s.Inv basename fotos inicio (before ++ [a]) := by
  have hcriados : criados (before ++ [a]) = criados before := by
    rw [criados_append, ha, List.append_nil]
  refine ⟨by rw [hcriados, h.tamanho], fun e he u hu => (h.envios e he u hu).append a, ?_⟩
  intro o c u ho hu
  exact (h.carros o c u ho hu).imp (fun hc => hc.append a) fun hm => hm.append a

/-- Every step keeps the URLs where they belong. -/
lemma Inv.step (hserver : ServidorDeFotos transport fotos) {s s' : Album σ}
    {before : List PassoAlbum} (h : s.Inv basename fotos inicio before) {a : PassoAlbum}
    (ha : s.step basename transport a = some s') :
    s'.Inv basename fotos inicio (before ++ [a]) := by
  cases a with
  | alocar c =>
    obtain rfl := Option.some.inj ha
    have hcriados : inicio ++ criados (before ++ [.alocar c]) =
        inicio ++ criados before ++ [c] := by
      rw [criados_append, ← List.append_assoc]
      rfl
    refine ⟨?_, fun e he u hu => (h.envios e he u hu).append _, fun o c' u ho hu => ?_⟩
    · rw [hcriados, List.length_append, h.tamanho, ← List.length_append]
    · rcases Nat.lt_or_ge o s.carros.length with hlt | hge
      · rw [List.getElem?_append_left hlt] at ho
        exact (h.carros o c' u ho hu).imp (fun hc => hc.append _) fun hm => hm.append _
      · refine Or.inl ⟨c', ?_, hu⟩
        rw [List.getElem?_append_right hge] at ho
        rw [hcriados, List.getElem?_append_right (h.tamanho ▸ hge), ← h.tamanho]
        exact ho
  | preencher o form =>
    obtain ⟨c, ho, rfl⟩ := Option.map_eq_some_iff.mp ha
    have hset : Inv basename fotos inicio
        { s with carros := s.carros.set o (CarroFormPage.preencher (some c) form) } before :=
      h.set (fun e he => he) fun u hu => h.carros o c u ho hu
    exact hset.append rfl
  | upload o stored file =>
    obtain ⟨c, ho, rfl⟩ := Option.map_eq_some_iff.mp ha
    have h' := h.append (a := .upload o stored file) rfl
    refine ⟨h'.tamanho, fun e he u hu => ?_, fun j c' u hj hu => ?_⟩
    · rcases List.mem_append.mp he with he | he
      · exact (h'.envios e he u hu).foto hserver stored file
      · obtain rfl := List.mem_singleton.mp he
        obtain ⟨imageBytes, hbytes, hfoto⟩ := mostra_foto hserver hu
        exact ⟨stored, file, imageBytes, List.mem_append_right _ (List.mem_singleton_self _),
          hbytes, hfoto⟩
    · exact (h'.carros j c' u hj hu).imp_right fun hm => hm.foto hserver stored file
  | uploadFeito k =>
    obtain ⟨e, he, ha⟩ := Option.bind_eq_some_iff.mp ha
    obtain ⟨c, ho, rfl⟩ := Option.map_eq_some_iff.mp ha
    refine (h.set (fun e he => List.mem_of_mem_eraseIdx he) fun u hu => ?_).append rfl
    rcases urlFoto_enviarFoto hu with hu | hu
    · exact h.carros e.o c u ho hu
    · exact Or.inr (h.envios e (List.mem_of_getElem? he) u hu)
  | outro req =>
    obtain rfl := Option.some.inj ha
    have h' := h.append (a := .outro req) rfl
    exact ⟨h'.tamanho, fun e he u hu => (h'.envios e he u hu).outro hserver req,
      fun o c u ho hu => (h'.carros o c u ho hu).imp_right fun hm => hm.outro hserver req⟩

/-- **No photo goes astray.**  After any run, with uploads overlapping as they like, the URL of an
object is the one it came with, or the server shows a file there that was sent for this object. -/
theorem foto_do_carro (hserver : ServidorDeFotos transport fotos) {inicio : List Carro} {w : σ}
    {as : List PassoAlbum} {t : Album σ}
    (hrun : StepRun.run (step basename transport) ⟨inicio, [], w⟩ as = some t) {o : ℕ} {c : Carro}
    {u : String} (ho : t.carros[o]? = some c) (hu : c.urlFoto = some u) :
    (∃ c₀, (inicio ++ criados as)[o]? = some c₀ ∧ c₀.urlFoto = some u) ∨
      ∃ stored file imageBytes, PassoAlbum.upload o stored file ∈ as ∧
        file.bytes = .ok imageBytes ∧ fotos t.world u = some (basename file.path, imageBytes) := by
  have hinicio : Inv basename fotos inicio (⟨inicio, [], w⟩ : Album σ) [] :=
    ⟨by simp [criados], by simp, fun o c u ho hu => Or.inl ⟨c, by simpa [criados] using ho, hu⟩⟩
  have hinv := StepRun.run_history (I := fun s before => Inv basename fotos inicio s before)
    (fun s a s' before h ha => h.step hserver ha) hinicio hrun
  exact hinv.carros o c u ho hu

/-- The URL of the photo at a position: its length says which. -/
def urlPosicao (n : ℕ) : String := String.ofList (List.replicate (n + 1) 'f')

/-- A server that keeps the photos it gets in their order, and answers with the URL of the
position. -/
def galeria : Transport (List (String × List UInt8)) := fun req fotos =>
  match if req.method = .post ∧ req.url = urlUpload then req.body.bind UploadApi.lerPedido
    else none with
  | none => (.ok ⟨404, ""⟩, fotos)
  | some foto =>
    (.ok ⟨200, jsonEncode (.map [("url", .str (urlPosicao fotos.length))])⟩, fotos ++ [foto])

/-- The photo it shows under a URL. -/
def naGaleria (fotos : List (String × List UInt8)) (u : String) : Option (String × List UInt8) :=
  fotos[u.length - 1]?

/-- The URL in its answer. -/
lemma lerUrl_jsonEncode (u : String) :
    UploadApi.lerUrl (jsonEncode (.map [("url", .str u)])) = .ok (some u) := by
  rw [UploadApi.lerUrl, jsonDecode_jsonEncode]
  rfl

/-- It shows what it was sent. -/
lemma servidorDeFotos_galeria : ServidorDeFotos galeria naGaleria := by
  refine ⟨fun {req w response foto u} hpost hurl hbody hanswer hlido => ?_,
    fun {w u foto} req h => ?_⟩
  · simp only [galeria, hpost, hurl, and_self, if_true, hbody, Except.ok.injEq] at hanswer ⊢
    subst hanswer
    simp only [lerUrl_jsonEncode, Except.ok.injEq, Option.some.injEq] at hlido
    subst hlido
    simp [naGaleria, urlPosicao]
  · have hlt : u.length - 1 < w.length := (List.getElem?_eq_some_iff.mp h).1
    unfold galeria
    split
    · exact h
    · exact (List.getElem?_append_left hlt).trans h

/-- Two uploads for different objects that return in the other order: the car that had a photo has
the one that was sent for it. -/
theorem foto_do_carro_trocado :
    let stored := some "\x7b\"roles\":[]\x7d"
    let gol : Carro := { nome := some "Gol" }
    let fusca : Carro := { nome := some "Fusca", urlFoto := some "fusca.jpg" }
    let as : List PassoAlbum :=
      [.upload 0 stored ⟨"gol.jpg", .ok [1, 2, 3]⟩, .upload 1 stored ⟨"nova.jpg", .ok [4, 5]⟩,
        .uploadFeito 1, .uploadFeito 0]
    ∃ (t : Album (List (String × List UInt8))) (c : Carro) (u : String),
      StepRun.run (step id galeria) ⟨[gol, fusca], [], []⟩ as = some t ∧
        t.carros[1]? = some c ∧ c.urlFoto = some u ∧
        ∃ stored file imageBytes, PassoAlbum.upload 1 stored file ∈ as ∧
          file.bytes = .ok imageBytes ∧ naGaleria t.world u = some (file.path, imageBytes) := by
  intro stored gol fusca as
  obtain ⟨hs, hh⟩ := exists_headers_semRoles
  have hrun : StepRun.run (step id galeria) ⟨[gol, fusca], [], []⟩ as =
      some ⟨[{ gol with urlFoto := some (urlPosicao 0) },
        { fusca with urlFoto := some (urlPosicao 1) }], [],
        [("gol.jpg", [1, 2, 3]), ("nova.jpg", [4, 5])]⟩ := by
    simp [as, stored, StepRun.run_cons, step, UploadApi.foto, request, hh, galeria,
      CarrosApi.enviarFoto, UploadApi.upload_of_headers hh, Except.bind, lerUrl_jsonEncode,
      ApiResponse.success]
  refine ⟨_, _, _, hrun, rfl, rfl, ?_⟩
  rcases foto_do_carro servidorDeFotos_galeria hrun (o := 1) rfl rfl with
    ⟨c₀, hc₀, hurl⟩ | hmostra
  · obtain rfl := Option.some.inj hc₀
    exact absurd hurl (by decide)
  · exact hmostra

end Album

end Carros
