import Carros.Base.StepRun
import Carros.Catalogue.CarroForm
import Carros.Favoritos.FavoritoService
import Carros.Favoritos.LocalJoin
import Carros.Local.CarrosBloc

/-!
# The running app

One running app with everything its pages share: the objects of class `Carro`, which are mutable and
which lists, pages and pending calls refer to; the calls of `CarrosApi.save`, `CarrosApi.delete` and
`FavoritoService.favoritar2` that wait at one of their awaits; the requests on their way to the
server; the Firestore collection and the local database, with the writes and statements not yet
executed.

An object is named by its address, the place in the list of all objects.  Whatever a page could do
with a car it shows can happen here with any object, at any time and in any order; a step is what
the app does between two awaits, and `Execucao.Efeito` says case by case what it does.  A restart
loses the objects, the calls and the statements that were not executed, and keeps what is on the
server, in the collection and in the database.
-/

namespace Carros

open Dart Sql

/-- A call that waits. -/
inductive Pendente where
  /-- `CarrosApi.save` waits for `UploadApi.upload`, which comes back with this. -/
  | upload (o : ℕ) (foto : Foto)
  /-- `CarrosApi.save` waits for `Usuario.get`. -/
  | salvar (o : ℕ)
  /-- `CarrosApi.delete` waits for `Usuario.get`. -/
  | deletar (o : ℕ)
  /-- `post`, `put` or `delete` waits for `_headers`; the rest of the request is fixed. -/
  | pedido (method : Method) (url : String) (body : Option String)
  /-- `favoritar2` waits for `document.get`. -/
  | favoritar (o : ℕ) (document : String)
  deriving DecidableEq

/-- What the buttons of the car page open. -/
inductive Abertura where
  | mapaPage (carro : Carro)
  | videoApp
  | alerta (msg : String)
  deriving DecidableEq, Repr

namespace CarroPage

/-- `_onClickMapa`. -/
def onClickMapa (carro : Carro) : Abertura :=
  if carro.latitude ≠ none ∧ carro.longitude ≠ none then .mapaPage carro
  else .alerta "Esse carro nao possui"

/-- `_onClickVideo`. -/
def onClickVideo (carro : Carro) : Abertura :=
  match carro.urlVideo with
  | none => .alerta "Este carro nao possui nenhum video"
  | some url => if url.isEmpty then .alerta "Este carro nao possui nenhum video" else .videoApp

end CarroPage

/-- The online branch of `fetch` emits what `getCarros` returned, and saves the cars in it. -/
lemma CarrosBloc.online_eq (carros : Except DartError (List Carro)) :
    online carros = ⟨carros, carros.toOption.getD []⟩ := by
  cases carros with
  | error e => rfl
  | ok carros => exact online_ok carros

/-- The running app and what it talks to. -/
structure Execucao where
  /-- The cars in memory, by address. -/
  objetos : List Carro
  pendentes : List Pendente
  /-- All requests that were sent. -/
  enviados : List Request
  /-- The requests the server has not handled. -/
  rede : List Request
  catalogo : Catalogo
  /-- The writes to documents that were not applied, oldest first. -/
  escritas : List (String × DocWrite)
  documentos : Colecao
  /-- The cars whose insert statements were not executed, as they were when `toMap` read them. -/
  insercoes : List Carro
  banco : Database
  /-- What the buttons of the car pages opened. -/
  aberturas : List Abertura

/-- What can happen. -/
inductive PassoExecucao where
  /-- A tab gets the outcome of the request of `getCarros`, and starts saving what it lists. -/
  | tab (answer : Except DartError Response)
  /-- The search gets the outcome of the request of `getCarros`. -/
  | busca (answer : Except DartError Response)
  /-- A tab reads the local table. -/
  | offline (tipo : String)
  /-- `FavoritosModel` reads the join of the local tables. -/
  | favoritosLocais
  /-- The page of the favourites gets a snapshot. -/
  | favoritos
  /-- `Salvar` is tapped in the form of an object, or in a form without a car. -/
  | salvar (o : Option ℕ) (form : Formulario)
  /-- The upload of a photo returns, having read this session. -/
  | uploadFeito (o : ℕ) (foto : Foto) (stored : Option String)
  /-- The `Usuario.get` of a save reads this session. -/
  | salvarLido (o : ℕ) (stored : Option String)
  /-- `Deletar` is chosen on the page of an object. -/
  | deletar (o : ℕ)
  /-- The `Usuario.get` of a delete reads this session. -/
  | deletarLido (o : ℕ) (stored : Option String)
  /-- `_headers` reads this session, and the request is sent. -/
  | enviar (method : Method) (url : String) (body : Option String) (stored : Option String)
  /-- The server handles a request; `novo` is the id it gives to a new record. -/
  | atender (req : Request) (absent : Response) (novo : Int)
  /-- The favourite button is tapped on the page of an object. -/
  | favoritar (o : ℕ)
  /-- `favoritar2` learns whether the document exists. -/
  | favoritarLido (o : ℕ) (document : String) (existe : Bool)
  /-- The oldest write to a document is applied. -/
  | escrever
  /-- The oldest insert statement is executed. -/
  | inserir (gen : RowIds)
  /-- The button of the map is tapped. -/
  | mapa (o : ℕ)
  /-- The button of the video is tapped. -/
  | video (o : ℕ)
  /-- The app is closed and started again. -/
  | reiniciar

namespace Execucao

/-- A fresh install, on any server catalogue and any collection. -/
def inicio (catalogo : Catalogo) (documentos : Colecao) : Execucao :=
  { objetos := [], pendentes := [], enviados := [], rede := [], catalogo, escritas := [],
    documentos, insercoes := [], banco := bancoCriado, aberturas := [] }

/-- The outcome of `getCarros`, from the outcome of its request on. -/
def carrosDe (answer : Except DartError Response) : Except DartError (List Carro) :=
  answer.bind fun response => CarrosApi.decodeCarros response.body

/-- Decoded cars are new objects. -/
def alocar (s : Execucao) (carros : Except DartError (List Carro)) : Execucao :=
  { s with objetos := s.objetos ++ carros.toOption.getD [] }

/-- Write an object. -/
def gravar (s : Execucao) (o : ℕ) (c : Carro) : Execucao := { s with objetos := s.objetos.set o c }

/-- A call starts to wait. -/
def chamar (s : Execucao) (p : Pendente) : Execucao := { s with pendentes := s.pendentes ++ [p] }

/-- A call is over. -/
def encerrar (s : Execucao) (p : Pendente) : Execucao := { s with pendentes := s.pendentes.erase p }

/-- `save` up to its first await. -/
def salvamento (o : ℕ) (file : Option Foto) : Pendente :=
  match file with
  | some foto => .upload o foto
  | none => .salvar o

/-- A request leaves the app. -/
def mandar (s : Execucao) (req : Request) : Execucao :=
  { s with enviados := s.enviados ++ [req], rede := s.rede ++ [req] }

/-- One step. -/
def step (s : Execucao) : PassoExecucao → Option Execucao
  | .tab answer =>
    let fetch := CarrosBloc.online (carrosDe answer)
    some { s.alocar fetch.event with insercoes := s.insercoes ++ fetch.saves }
  | .busca answer =>
    -- The loop of `search` keeps some of the cars and drops the others.
    some (s.alocar (carrosDe answer))
  | .offline tipo => some (s.alocar (CarrosBloc.offline s.banco tipo).event)
  | .favoritosLocais => some (s.alocar (FavoritoService.getCarros s.banco))
  | .favoritos => some (s.alocar (FavoritoService.toList s.documentos))
  | .salvar none form =>
    if (CarroFormPage.validateNome form.nome).isSome then some s
    else
      some ((s.alocar (.ok [CarroFormPage.preencher none form])).chamar
        (salvamento s.objetos.length form.file))
  | .salvar (some o) form =>
    (s.objetos[o]?).map fun c =>
      if (CarroFormPage.validateNome form.nome).isSome then s
      else (s.gravar o (CarroFormPage.preencher (some c) form)).chamar (salvamento o form.file)
  | .uploadFeito o foto stored =>
    if .upload o foto ∈ s.pendentes then
      (s.objetos[o]?).map fun c =>
        ((s.encerrar (.upload o foto)).gravar o
          (CarrosApi.enviarFoto stored c (some foto))).chamar (.salvar o)
    else none
  | .salvarLido o stored =>
    if .salvar o ∈ s.pendentes then
      match headers stored with
      | .error _ => some (s.encerrar (.salvar o))
      | .ok _ =>
        (s.objetos[o]?).map fun c =>
          (s.encerrar (.salvar o)).chamar
            (.pedido (CarrosApi.saveMethod c) (CarrosApi.saveUrl c) (some c.toJson))
    else none
  | .deletar o => (s.objetos[o]?).map fun _ => s.chamar (.deletar o)
  | .deletarLido o stored =>
    if .deletar o ∈ s.pendentes then
      match headers stored with
      | .error _ => some (s.encerrar (.deletar o))
      | .ok _ =>
        (s.objetos[o]?).map fun c =>
          (s.encerrar (.deletar o)).chamar (.pedido .delete (urlCarro c.id) none)
    else none
  | .enviar method url body stored =>
    if .pedido method url body ∈ s.pendentes then
      match headers stored with
      | .error _ => some (s.encerrar (.pedido method url body))
      | .ok hs => some ((s.encerrar (.pedido method url body)).mandar ⟨method, url, hs, body⟩)
    else none
  | .atender req absent novo =>
    if req ∈ s.rede ∧ novo ∉ s.catalogo then
      some { s with
        catalogo := (Catalogo.answer absent novo req s.catalogo).2
        rede := s.rede.erase req }
    else none
  | .favoritar o =>
    (s.objetos[o]?).map fun c => s.chamar (.favoritar o (FavoritoService.document c))
  | .favoritarLido o document existe =>
    if .favoritar o document ∈ s.pendentes then
      (s.objetos[o]?).map fun c =>
        { s.encerrar (.favoritar o document) with
          escritas := s.escritas ++ [(document, (FavoritoService.decidir existe c).2)] }
    else none
  | .escrever =>
    match s.escritas with
    | [] => none
    | (document, write) :: escritas =>
      some { s with documentos := s.documentos.apply document write, escritas }
  | .inserir gen =>
    match s.insercoes with
    | [] => none
    | c :: insercoes =>
      some { s with
        banco := (CarroDAO.save s.banco gen c).toOption.elim s.banco Prod.snd
        insercoes }
  | .mapa o =>
    (s.objetos[o]?).map fun c => { s with aberturas := s.aberturas ++ [CarroPage.onClickMapa c] }
  | .video o =>
    (s.objetos[o]?).map fun c => { s with aberturas := s.aberturas ++ [CarroPage.onClickVideo c] }
  | .reiniciar => some { s with objetos := [], pendentes := [], insercoes := [] }

/-- What a step does, case by case. -/
inductive Efeito (s : Execucao) : PassoExecucao → Execucao → Prop
  | tab {answer} : Efeito s (.tab answer)
      { s.alocar (carrosDe answer) with
        insercoes := s.insercoes ++ (carrosDe answer).toOption.getD [] }
  | busca {answer} : Efeito s (.busca answer) (s.alocar (carrosDe answer))
  | offline {tipo} : Efeito s (.offline tipo)
      (s.alocar (CarroDAO.findAllByTipo s.banco (some tipo)))
  | favoritosLocais : Efeito s .favoritosLocais (s.alocar (FavoritoService.getCarros s.banco))
  | favoritos : Efeito s .favoritos (s.alocar (FavoritoService.toList s.documentos))
  | invalido {o form} (hform : (CarroFormPage.validateNome form.nome).isSome = true) :
      Efeito s (.salvar o form) s
  | novo {form} (hform : ¬ (CarroFormPage.validateNome form.nome).isSome = true) :
      Efeito s (.salvar none form)
        ((s.alocar (.ok [CarroFormPage.preencher none form])).chamar
          (salvamento s.objetos.length form.file))
  | edita {o form c} (hform : ¬ (CarroFormPage.validateNome form.nome).isSome = true)
      (ho : s.objetos[o]? = some c) :
      Efeito s (.salvar (some o) form)
        ((s.gravar o (CarroFormPage.preencher (some c) form)).chamar (salvamento o form.file))
  | uploadFeito {o foto stored c} (hp : .upload o foto ∈ s.pendentes)
      (ho : s.objetos[o]? = some c) :
      Efeito s (.uploadFeito o foto stored)
        (((s.encerrar (.upload o foto)).gravar o
          (CarrosApi.enviarFoto stored c (some foto))).chamar (.salvar o))
  | salvarFalha {o stored e} (hp : .salvar o ∈ s.pendentes) (hh : headers stored = .error e) :
      Efeito s (.salvarLido o stored) (s.encerrar (.salvar o))
  | salvarLido {o stored hs c} (hp : .salvar o ∈ s.pendentes) (hh : headers stored = .ok hs)
      (ho : s.objetos[o]? = some c) :
      Efeito s (.salvarLido o stored)
        ((s.encerrar (.salvar o)).chamar
          (.pedido (CarrosApi.saveMethod c) (CarrosApi.saveUrl c) (some c.toJson)))
  | deletar {o c} (ho : s.objetos[o]? = some c) : Efeito s (.deletar o) (s.chamar (.deletar o))
  | deletarFalha {o stored e} (hp : .deletar o ∈ s.pendentes) (hh : headers stored = .error e) :
      Efeito s (.deletarLido o stored) (s.encerrar (.deletar o))
  | deletarLido {o stored hs c} (hp : .deletar o ∈ s.pendentes) (hh : headers stored = .ok hs)
      (ho : s.objetos[o]? = some c) :
      Efeito s (.deletarLido o stored)
        ((s.encerrar (.deletar o)).chamar (.pedido .delete (urlCarro c.id) none))
  | enviarFalha {method url body stored e} (hp : .pedido method url body ∈ s.pendentes)
      (hh : headers stored = .error e) :
      Efeito s (.enviar method url body stored) (s.encerrar (.pedido method url body))
  | enviar {method url body stored hs} (hp : .pedido method url body ∈ s.pendentes)
      (hh : headers stored = .ok hs) :
      Efeito s (.enviar method url body stored)
        ((s.encerrar (.pedido method url body)).mandar ⟨method, url, hs, body⟩)
  | atender {req absent novo} (hreq : req ∈ s.rede) (hnovo : novo ∉ s.catalogo) :
      Efeito s (.atender req absent novo)
        { s with
          catalogo := (Catalogo.answer absent novo req s.catalogo).2
          rede := s.rede.erase req }
  | favoritar {o c} (ho : s.objetos[o]? = some c) :
      Efeito s (.favoritar o) (s.chamar (.favoritar o (FavoritoService.document c)))
  | favoritarLido {o document existe c} (hp : .favoritar o document ∈ s.pendentes)
      (ho : s.objetos[o]? = some c) :
      Efeito s (.favoritarLido o document existe)
        { s.encerrar (.favoritar o document) with
          escritas := s.escritas ++ [(document, (FavoritoService.decidir existe c).2)] }
  | escrever {document write escritas} (hw : s.escritas = (document, write) :: escritas) :
      Efeito s .escrever
        { s with documentos := s.documentos.apply document write, escritas := escritas }
  | inserir {gen c insercoes} (hc : s.insercoes = c :: insercoes) :
      Efeito s (.inserir gen)
        { s with
          banco := (CarroDAO.save s.banco gen c).toOption.elim s.banco Prod.snd
          insercoes := insercoes }
  | mapa {o c} (ho : s.objetos[o]? = some c) :
      Efeito s (.mapa o) { s with aberturas := s.aberturas ++ [CarroPage.onClickMapa c] }
  | video {o c} (ho : s.objetos[o]? = some c) :
      Efeito s (.video o) { s with aberturas := s.aberturas ++ [CarroPage.onClickVideo c] }
  | reiniciar : Efeito s .reiniciar { s with objetos := [], pendentes := [], insercoes := [] }

/-- A step has one of the effects. -/
lemma efeito_of_step {s s' : Execucao} {a : PassoExecucao} (h : step s a = some s') :
    Efeito s a s' := by
  cases a with
  | tab answer =>
    obtain rfl := Option.some.inj h
    rw [CarrosBloc.online_eq]
    exact .tab
  | busca answer =>
    obtain rfl := Option.some.inj h
    exact .busca
  | offline tipo =>
    obtain rfl := Option.some.inj h
    exact .offline
  | favoritosLocais =>
    obtain rfl := Option.some.inj h
    exact .favoritosLocais
  | favoritos =>
    obtain rfl := Option.some.inj h
    exact .favoritos
  | salvar o form =>
    cases o with
    | none =>
      simp only [step] at h
      split at h
      · rename_i hform
        obtain rfl := Option.some.inj h
        exact .invalido hform
      · rename_i hform
        obtain rfl := Option.some.inj h
        exact .novo hform
    | some o =>
      obtain ⟨c, ho, h⟩ := Option.map_eq_some_iff.mp h
      split at h
      · rename_i hform
        obtain rfl := h
        exact .invalido hform
      · rename_i hform
        obtain rfl := h
        exact .edita hform ho
  | uploadFeito o foto stored =>
    obtain ⟨hp, h⟩ := Option.ite_none_right_eq_some.mp h
    obtain ⟨c, ho, rfl⟩ := Option.map_eq_some_iff.mp h
    exact .uploadFeito hp ho
  | salvarLido o stored =>
    obtain ⟨hp, h⟩ := Option.ite_none_right_eq_some.mp h
    cases hh : headers stored with
    | error e =>
      simp only [hh, Option.some.injEq] at h
      exact h ▸ .salvarFalha hp hh
    | ok hs =>
      simp only [hh] at h
      obtain ⟨c, ho, rfl⟩ := Option.map_eq_some_iff.mp h
      exact .salvarLido hp hh ho
  | deletar o =>
    obtain ⟨c, ho, rfl⟩ := Option.map_eq_some_iff.mp h
    exact .deletar ho
  | deletarLido o stored =>
    obtain ⟨hp, h⟩ := Option.ite_none_right_eq_some.mp h
    cases hh : headers stored with
    | error e =>
      simp only [hh, Option.some.injEq] at h
      exact h ▸ .deletarFalha hp hh
    | ok hs =>
      simp only [hh] at h
      obtain ⟨c, ho, rfl⟩ := Option.map_eq_some_iff.mp h
      exact .deletarLido hp hh ho
  | enviar method url body stored =>
    obtain ⟨hp, h⟩ := Option.ite_none_right_eq_some.mp h
    cases hh : headers stored with
    | error e =>
      simp only [hh, Option.some.injEq] at h
      exact h ▸ .enviarFalha hp hh
    | ok hs =>
      simp only [hh, Option.some.injEq] at h
      exact h ▸ .enviar hp hh
  | atender req absent novo =>
    obtain ⟨⟨hreq, hnovo⟩, h⟩ := Option.ite_none_right_eq_some.mp h
    obtain rfl := Option.some.inj h
    exact .atender hreq hnovo
  | favoritar o =>
    obtain ⟨c, ho, rfl⟩ := Option.map_eq_some_iff.mp h
    exact .favoritar ho
  | favoritarLido o document existe =>
    obtain ⟨hp, h⟩ := Option.ite_none_right_eq_some.mp h
    obtain ⟨c, ho, rfl⟩ := Option.map_eq_some_iff.mp h
    exact .favoritarLido hp ho
  | escrever =>
    cases hw : s.escritas with
    | nil => simp [step, hw] at h
    | cons w escritas =>
      simp only [step, hw, Option.some.injEq] at h
      exact h ▸ .escrever hw
  | inserir gen =>
    cases hc : s.insercoes with
    | nil => simp [step, hc] at h
    | cons c insercoes =>
      simp only [step, hc, Option.some.injEq] at h
      exact h ▸ .inserir hc
  | mapa o =>
    obtain ⟨c, ho, rfl⟩ := Option.map_eq_some_iff.mp h
    exact .mapa ho
  | video o =>
    obtain ⟨c, ho, rfl⟩ := Option.map_eq_some_iff.mp h
    exact .video ho
  | reiniciar =>
    obtain rfl := Option.some.inj h
    exact .reiniciar

end Execucao

end Carros
