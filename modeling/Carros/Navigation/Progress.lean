import Carros.Navigation.App

/-!
# The progress of the login buttons

`LoginPage` of `pages/login/login_page.dart`, as far as its two `AppButton`s and their logins go.
Progress is carried by a flag, `_showProgress`, by a stream controller of the page and by two blocs,
and the `StreamBuilder` of a button shows the last event its bloc has delivered: `_bloc2` for the
API login, `_bloc` for Firebase.  `_onClickLogin` sends its request through `_bloc`;
`_onClickLoginGoogle` asks `FirebaseService` and adds no event anywhere.

`fiel_iff` says when the page tells the truth in a state without undelivered events: while no
request is pending, unless a tap that the form rejected has left the flag on.  `nav_aposLogin`
connects the end of an API login with the navigation.
-/

namespace Carros

/-! ## The page -/

/-- The `length` of a Dart string, in UTF-16 code units. -/
def utf16Length (text : String) : ℕ :=
  text.toList.foldl (fun n c => n + if c.toNat < 0x10000 then 1 else 2) 0

/-- `_validatorLogin`. -/
def validatorLogin (text : String) : Option String :=
  if text.isEmpty then some "Digite o login" else none

/-- `_validatorPassword`. -/
def validatorPassword (text : String) : Option String :=
  if text.isEmpty then some "Digite o password"
  else if utf16Length text < 3 then some "O minimo 3 caracteres"
  else none

/-- `validate` of the form: every field passes. -/
def formOk (login senha : String) : Bool :=
  (validatorLogin login).isNone && (validatorPassword senha).isNone

/-- The two `AppButton`s. -/
inductive Botao where
  | api
  | firebase
  deriving DecidableEq, Repr

/-- A login request, with the button that started it. -/
structure PedidoLogin where
  botao : Botao
  login : String
  senha : String
  deriving DecidableEq, Repr

/-- What a login puts on the screen: `push` of `HomePage`, which replaces the page or not, or an
`alert`. -/
inductive Tela where
  | home (replace : Bool)
  | alerta (title : String) (msg : Option String)
  deriving DecidableEq, Repr

/-- What a screen asks of the navigator, for a page with the given route. -/
def Tela.nav (rota : ℕ) : Tela → Nav
  | .home true => .replace .home
  | .home false => .push .home
  | .alerta _ _ => .push (.alerta rota)

/-- A `LoginBloc` and the `StreamBuilder` that listens to it: the events not delivered yet, oldest
first, and the data of the snapshot. -/
structure LoginBloc where
  eventos : List Bool
  data : Bool
  deriving DecidableEq, Repr

namespace LoginBloc

/-- A new bloc, whose `StreamBuilder` has the `initialData` of the page. -/
def inicio : LoginBloc := ⟨[], false⟩

/-- An event is added to the stream. -/
def add (bloc : LoginBloc) (event : Bool) : LoginBloc :=
  { bloc with eventos := bloc.eventos ++ [event] }

/-- The next event is delivered. -/
def entregar (bloc : LoginBloc) : Option LoginBloc :=
  match bloc.eventos with
  | [] => none
  | event :: eventos => some ⟨eventos, event⟩

/-- What the `StreamBuilder` shows once every event is delivered. -/
def ultimo (bloc : LoginBloc) : Bool := bloc.eventos.getLastD bloc.data

/-- The last event added is the one that is shown. -/
@[simp] lemma ultimo_add (bloc : LoginBloc) (event : Bool) : (bloc.add event).ultimo = event := by
  simp [ultimo, add]

/-- A delivery does not change what is shown in the end. -/
lemma ultimo_entregar {bloc bloc' : LoginBloc} (h : bloc.entregar = some bloc') :
    bloc'.ultimo = bloc.ultimo := by
  rw [entregar] at h
  split at h
  · cases h
  · rename_i event eventos heventos
    obtain rfl := Option.some.inj h
    rw [ultimo, ultimo, heventos, List.getLastD_cons]

/-- Nothing is delivered by a new bloc. -/
@[simp] lemma entregar_inicio : inicio.entregar = none := rfl

end LoginBloc

/-- The state of the page: the flag `_showProgress`, the events of `_streamController`, to which
nothing listens, the two blocs, the requests without an answer, and what was put on the screen. -/
structure LoginPage where
  showProgress : Bool
  streamController : List Bool
  bloc : LoginBloc
  bloc2 : LoginBloc
  pedidos : List PedidoLogin
  telas : List Tela
  deriving DecidableEq

/-- What happens on the page while it is mounted: a button is tapped with the given texts in the
fields, a request is answered, the `StreamBuilder` of a button gets the next event. -/
inductive PassoLogin where
  | tocar (botao : Botao) (login senha : String)
  | responder (pedido : PedidoLogin) (response : ApiResponse Usuario)
  | entregar (botao : Botao)
  deriving DecidableEq

namespace LoginPage

/-- The page after `initState`. -/
def inicio : LoginPage := ⟨false, [], .inicio, .inicio, [], []⟩

/-- `_onClickLogin` up to the request of `loginAPI`. -/
def onClickLogin (s : LoginPage) (login senha : String) : LoginPage :=
  let s' := { s with showProgress := true, streamController := s.streamController ++ [true] }
  if formOk login senha then
    { s' with
      bloc := s'.bloc.add true
      pedidos := s'.pedidos ++ [⟨.api, login, senha⟩] }
  else s'

/-- `loginAPI` and `_onClickLogin` from the response on. -/
def aposLogin (s : LoginPage) (response : ApiResponse Usuario) : LoginPage :=
  let s' := { s with bloc := s.bloc.add false }
  if response.ok then
    { s' with
      showProgress := false
      streamController := s'.streamController ++ [false]
      telas := s'.telas ++ [.home true] }
  else
    { s' with
      telas := s'.telas ++ [.alerta "Erro" response.msg]
      showProgress := false
      streamController := s'.streamController ++ [false] }

/-- `_onClickLoginGoogle` up to the request: it does not validate the form. -/
def onClickLoginGoogle (s : LoginPage) (login senha : String) : LoginPage :=
  { s with pedidos := s.pedidos ++ [⟨.firebase, login, senha⟩] }

/-- `_onClickLoginGoogle` from the response on. -/
def aposLoginGoogle (s : LoginPage) (response : ApiResponse Usuario) : LoginPage :=
  if response.ok then { s with telas := s.telas ++ [.home false] }
  else { s with telas := s.telas ++ [.alerta "Error" response.msg] }

/-- A step; `none` if it cannot happen. -/
def step (s : LoginPage) : PassoLogin → Option LoginPage
  | .tocar .api login senha => some (s.onClickLogin login senha)
  | .tocar .firebase login senha => some (s.onClickLoginGoogle login senha)
  | .responder pedido response =>
    if pedido ∈ s.pedidos then
      let s' := { s with pedidos := s.pedidos.erase pedido }
      match pedido.botao with
      | .api => some (s'.aposLogin response)
      | .firebase => some (s'.aposLoginGoogle response)
    else none
  | .entregar .api => s.bloc2.entregar.map fun bloc2 => { s with bloc2 }
  | .entregar .firebase => s.bloc.entregar.map fun bloc => { s with bloc }

/-- The `showProgress` of a button in `_body`. -/
def mostra (s : LoginPage) : Botao → Bool
  | .api => s.bloc2.data
  | .firebase => s.bloc.data

/-- A request of the given button has no answer yet. -/
def Pendente (s : LoginPage) (botao : Botao) : Prop := ∃ pedido ∈ s.pedidos, pedido.botao = botao

/-- The `StreamBuilder`s have got every event. -/
structure Entregue (s : LoginPage) : Prop where
  bloc : s.bloc.eventos = []
  bloc2 : s.bloc2.eventos = []

/-- The page tells the truth: each button shows progress exactly while a request of it is pending,
and the flag is off unless one of the API is. -/
structure Fiel (s : LoginPage) : Prop where
  mostra : ∀ botao, s.mostra botao = true ↔ s.Pendente botao
  flag : ¬ s.Pendente .api → s.showProgress = false

end LoginPage

namespace PassoLogin

/-- A tap on the API login that the form accepts. -/
def Aceito : PassoLogin → Prop
  | .tocar .api login senha => formOk login senha = true
  | _ => False

/-- A tap on the API login that the form rejects. -/
def Rejeitado : PassoLogin → Prop
  | .tocar .api login senha => formOk login senha = false
  | _ => False

/-- The answer to a request of the API login. -/
def Respondido : PassoLogin → Prop
  | .responder pedido _ => pedido.botao = .api
  | _ => False

end PassoLogin

namespace LoginPage

open PassoLogin

/-! ## One step -/

variable {s s' : LoginPage} {a : PassoLogin}

/-- What the step of a label does to the flag, to the last event of `_bloc`, to `_bloc2` and to the
pending requests of the API. -/
structure Efeito (s : LoginPage) (a : PassoLogin) (s' : LoginPage) : Prop where
  flag : s'.showProgress = true ↔
    (a.Aceito ∨ a.Rejeitado) ∨ ¬ a.Respondido ∧ s.showProgress = true
  bloc : s'.bloc.ultimo = true ↔ a.Aceito ∨ ¬ a.Respondido ∧ s.bloc.ultimo = true
  bloc2 : s.bloc2 = .inicio → s'.bloc2 = .inicio
  aceito : a.Aceito → s'.Pendente .api
  pendente : s.Pendente .api → ¬ a.Respondido → s'.Pendente .api

/-- What is pending stays so if a request is added. -/
lemma Pendente.append {botao : Botao} {pedidos : List PedidoLogin} (pedido : PedidoLogin)
    (h : ∃ p ∈ pedidos, p.botao = botao) : ∃ p ∈ pedidos ++ [pedido], p.botao = botao := by
  obtain ⟨p, hp, hbotao⟩ := h
  exact ⟨p, List.mem_append_left _ hp, hbotao⟩

/-- The effect of a step. -/
lemma efeito_of_step (h : s.step a = some s') : Efeito s a s' := by
  cases a with
  | tocar botao login senha =>
    cases botao with
    | api =>
      obtain rfl := Option.some.inj h
      rw [onClickLogin]
      cases hform : formOk login senha with
      | true =>
        exact {
          flag := by simp [Aceito, hform]
          bloc := by simp [Aceito, hform]
          bloc2 := fun h => h
          aceito := fun _ => ⟨⟨.api, login, senha⟩, by simp, rfl⟩
          pendente := fun h _ => Pendente.append _ h }
      | false =>
        exact {
          flag := by simp [Rejeitado, hform]
          bloc := by simp [Aceito, Respondido, hform]
          bloc2 := fun h => h
          aceito := fun h => by simp [Aceito, hform] at h
          pendente := fun h _ => h }
    | firebase =>
      obtain rfl := Option.some.inj h
      exact {
        flag := by simp [Aceito, Rejeitado, Respondido, onClickLoginGoogle]
        bloc := by simp [Aceito, Respondido, onClickLoginGoogle]
        bloc2 := fun h => h
        aceito := False.elim
        pendente := fun h _ => Pendente.append _ h }
  | responder pedido response =>
    rw [step] at h
    split_ifs at h
    cases hbotao : pedido.botao with
    | api =>
      simp only [hbotao] at h
      obtain rfl := Option.some.inj h
      rw [aposLogin]
      cases response.ok <;>
        exact {
          flag := by simp [Aceito, Rejeitado, Respondido, hbotao]
          bloc := by simp [Aceito, Respondido, hbotao]
          bloc2 := fun h => h
          aceito := False.elim
          pendente := fun _ hne => absurd hbotao hne }
    | firebase =>
      simp only [hbotao] at h
      obtain rfl := Option.some.inj h
      -- The answered request is none of the API.
      have herase (h : s.Pendente .api) : ∃ p ∈ s.pedidos.erase pedido, p.botao = .api := by
        obtain ⟨p, hp, hapi⟩ := h
        refine ⟨p, (List.mem_erase_of_ne ?_).mpr hp, hapi⟩
        rintro rfl
        rw [hbotao] at hapi
        cases hapi
      rw [aposLoginGoogle]
      cases response.ok <;>
        exact {
          flag := by simp [Aceito, Rejeitado, Respondido, hbotao]
          bloc := by simp [Aceito, Respondido, hbotao]
          bloc2 := fun h => h
          aceito := False.elim
          pendente := fun h _ => herase h }
  | entregar botao =>
    cases botao with
    | api =>
      obtain ⟨bloc2, hbloc2, rfl⟩ := Option.map_eq_some_iff.mp h
      exact {
        flag := by simp [Aceito, Rejeitado, Respondido]
        bloc := by simp [Aceito, Respondido]
        bloc2 := fun h => by simp [h] at hbloc2
        aceito := False.elim
        pendente := fun h _ => h }
    | firebase =>
      obtain ⟨bloc, hbloc, rfl⟩ := Option.map_eq_some_iff.mp h
      exact {
        flag := by simp [Aceito, Rejeitado, Respondido]
        bloc := by simp [Aceito, Respondido, LoginBloc.ultimo_entregar hbloc]
        bloc2 := fun h => h
        aceito := False.elim
        pendente := fun h _ => h }

/-! ## Runs -/

variable {as : List PassoLogin}

/-- The flag is on exactly if no answer to a login of the API came after the last tap on it. -/
lemma showProgress_iff (hrun : StepRun.run step inicio as = some s) :
    s.showProgress = true ↔
      StepRun.Latched (fun a => a.Aceito ∨ a.Rejeitado) Respondido as :=
  StepRun.latch_iff (P := fun s => s.showProgress = true)
    (fun _ _ _ h => (efeito_of_step h).flag) (by simp [inicio]) hrun

/-- The last event of `_bloc` is `true` exactly if no answer to a login of the API came after the
last tap on it that the form accepted. -/
lemma ultimo_iff (hrun : StepRun.run step inicio as = some s) :
    s.bloc.ultimo = true ↔ StepRun.Latched Aceito Respondido as :=
  StepRun.latch_iff (P := fun s => s.bloc.ultimo = true)
    (fun _ _ _ h => (efeito_of_step h).bloc) (by simp [inicio, LoginBloc.inicio, LoginBloc.ultimo])
    hrun

/-- After a tap that the form accepted and no answer to the API, a request of the API is pending. -/
lemma pendente_of_latched (hrun : StepRun.run step inicio as = some s)
    (h : StepRun.Latched Aceito Respondido as) : s.Pendente .api := by
  refine StepRun.of_latched (P := fun s => s.Pendente .api) ?_ ?_ hrun h
  · exact fun _ _ _ ha hstep => (efeito_of_step hstep).aceito ha
  · exact fun _ _ _ hs ha hstep => (efeito_of_step hstep).pendente hs ha

/-- Nothing ever reaches the button of the API login. -/
lemma bloc2_of_run (hrun : StepRun.run step inicio as = some s) : s.bloc2 = .inicio :=
  StepRun.run_invariant_of_step (I := fun s => s.bloc2 = .inicio)
    (fun _ _ _ hs h => (efeito_of_step h).bloc2 hs) rfl hrun

/-- Without a pending request of the API the flag is on exactly if the last tap that the form
rejected was not followed by an answer to the API. -/
lemma showProgress_iff_of_not_pendente (hrun : StepRun.run step inicio as = some s)
    (hapi : ¬ s.Pendente .api) :
    s.showProgress = true ↔ StepRun.Latched Rejeitado Respondido as := by
  rw [showProgress_iff hrun, StepRun.latched_or]
  exact or_iff_right fun h => hapi (pendente_of_latched hrun h)

/-- With every event delivered and no pending request of the API, neither button shows progress. -/
lemma mostra_of_not_pendente (hrun : StepRun.run step inicio as = some s) (hs : s.Entregue)
    (hapi : ¬ s.Pendente .api) (botao : Botao) : s.mostra botao = false := by
  cases botao with
  | api =>
    rw [mostra, bloc2_of_run hrun]
    rfl
  | firebase =>
    have hultimo : s.bloc.ultimo = s.bloc.data := by
      rw [LoginBloc.ultimo, hs.bloc]
      rfl
    rw [mostra, ← hultimo, Bool.eq_false_iff, ne_eq, ultimo_iff hrun]
    exact fun h => hapi (pendente_of_latched hrun h)

/-- **The progress of the login buttons.**  After every run, in a state in which every event has
been delivered, the page tells the truth exactly if no request is pending and every tap that the
form rejected was followed by an answer to a login of the API.  The button of the API login never
shows progress, and that of Firebase shows the progress of the API login. -/
theorem fiel_iff (hrun : StepRun.run step inicio as = some s) (hs : s.Entregue) :
    s.Fiel ↔ s.pedidos = [] ∧ ¬ StepRun.Latched Rejeitado Respondido as := by
  constructor
  · intro h
    have hapi : ¬ s.Pendente .api := by
      rw [← h.mostra, mostra, bloc2_of_run hrun]
      exact Bool.false_ne_true
    have hfirebase : ¬ s.Pendente .firebase := by
      rw [← h.mostra, mostra_of_not_pendente hrun hs hapi]
      exact Bool.false_ne_true
    constructor
    · refine List.eq_nil_iff_forall_not_mem.mpr fun pedido hpedido => ?_
      cases hbotao : pedido.botao with
      | api => exact hapi ⟨pedido, hpedido, hbotao⟩
      | firebase => exact hfirebase ⟨pedido, hpedido, hbotao⟩
    · rw [← showProgress_iff_of_not_pendente hrun hapi, h.flag hapi]
      exact Bool.false_ne_true
  · rintro ⟨hpedidos, hrejeitado⟩
    have hnone (botao : Botao) : ¬ s.Pendente botao := by
      rintro ⟨pedido, hpedido, -⟩
      rw [hpedidos] at hpedido
      cases hpedido
    refine ⟨fun botao => ?_, fun hapi => ?_⟩
    · rw [mostra_of_not_pendente hrun hs (hnone .api) botao]
      exact iff_of_false Bool.false_ne_true (hnone botao)
    · rw [Bool.eq_false_iff, ne_eq, showProgress_iff_of_not_pendente hrun hapi]
      exact hrejeitado

/-- A tap that the form rejects, then a login of the API that succeeds: nothing is left on. -/
theorem fiel_iff_ok :
    ∃ s, StepRun.run step inicio
      [.tocar .api "" "", .tocar .api "ana" "123", .entregar .firebase,
        .responder ⟨.api, "ana", "123"⟩ (.success none), .entregar .firebase] = some s ∧
      s.telas = [.home true] ∧ s.Fiel := by
  have hrun : StepRun.run step inicio
      [.tocar .api "" "", .tocar .api "ana" "123", .entregar .firebase,
        .responder ⟨.api, "ana", "123"⟩ (.success none), .entregar .firebase] =
      some ⟨false, [true, true, false], .inicio, .inicio, [], [.home true]⟩ := by decide
  refine ⟨_, hrun, rfl, (fiel_iff hrun ⟨rfl, rfl⟩).mpr ⟨rfl, ?_⟩⟩
  rw [← showProgress_iff_of_not_pendente hrun (by simp [Pendente])]
  exact Bool.false_ne_true

/-- A login of the API is pending: its button shows no progress, but that of Firebase does. -/
theorem fiel_fails :
    ¬ ∀ as s, StepRun.run step inicio as = some s → s.Entregue → s.Fiel := by
  intro h
  have hrun : StepRun.run step inicio [.tocar .api "ana" "123", .entregar .firebase] =
      some ⟨true, [true], ⟨[], true⟩, .inicio, [⟨.api, "ana", "123"⟩], []⟩ := by decide
  have hapi := ((h _ _ hrun ⟨rfl, rfl⟩).mostra .api).mpr ⟨_, List.mem_cons_self, rfl⟩
  exact absurd hapi Bool.false_ne_true

/-- The end of an API login puts one screen up, and that is what the page asks of the navigator. -/
theorem nav_aposLogin (s : LoginPage) (app : App) (rota : ℕ) (response : ApiResponse Usuario) :
    ∃ tela, (s.aposLogin response).telas = s.telas ++ [tela] ∧
      app.aposLogin rota response = app.rotas.depois rota (tela.nav rota) := by
  cases hok : response.ok with
  | true => exact ⟨.home true, by simp [aposLogin, hok], by simp [App.aposLogin, hok, Tela.nav]⟩
  | false =>
    refine ⟨.alerta "Erro" response.msg, by simp [aposLogin, hok], ?_⟩
    simp [App.aposLogin, App.alert, hok, Tela.nav]

end LoginPage

end Carros
