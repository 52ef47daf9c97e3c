import Carros.Base.StepRun
import Carros.Session.LoginApi

/-!
# Pages and sessions

The navigation of the app: `SplashPage`, `LoginPage`, `CadastroPage`, `HomePage` and the dialogs of
`alert`, with every handler that moves between them, and the session these handlers read and write
on the way.

The state has two parts.  `Rotas` is the stack of routes; a route that was replaced or popped stays
mounted until its page is disposed of.  `Sessao` is what is stored under `user.prefs` with the
operations still pending, the sign-in state of Firebase, and the requests without a response.
`App.acao` gives for every step what becomes of the session and what the step asks of the
navigator; `Rotas.navegar` carries that out.

A handler that wants to navigate after an `await` needs the context of its page, so it does nothing
once that page is disposed of.  The navigator acts on the top route, whichever page asked it.  The
pages opened from `HomePage` neither sign in nor out and are left out.
-/

namespace Carros

open Dart

/-! ## Routes -/

/-- The pages, and the dialog `alert` shows for the page with the given route. -/
inductive Pagina where
  | splash
  | login
  | cadastro
  | home
  | alerta (rota : ℕ)
  deriving DecidableEq, Repr

/-- A route, with a number of its own. -/
structure Rota where
  id : ℕ
  pagina : Pagina
  deriving DecidableEq, Repr

/-- The stack of routes, top first, the routes that left it but whose pages are not disposed of
yet, and the number of the next route. -/
structure Rotas where
  pilha : List Rota
  saindo : List Rota
  proxima : ℕ
  deriving DecidableEq, Repr

/-- What a step asks of the navigator. -/
inductive Nav where
  | fica
  | push (pagina : Pagina)
  | replace (pagina : Pagina)
  | pop
  | dispose (k : ℕ)
  | reiniciar
  deriving DecidableEq, Repr

namespace Rotas

/-- The page on top. -/
def topo (r : Rotas) : Option Pagina := r.pilha.head?.map Rota.pagina

/-- The page of a route is mounted. -/
def mounted (r : Rotas) (id : ℕ) : Bool := (r.pilha ++ r.saindo).any fun rota => rota.id = id

/-- What a page asks of the navigator after an `await`: nothing once it is disposed of. -/
def depois (r : Rotas) (id : ℕ) (nav : Nav) : Nav := if r.mounted id then nav else .fica

/-- What the navigator does: `push`, `pushReplacement` of the top route, `pop`; the disposal of a
page that left; a new process, which shows the `SplashPage`. -/
def navegar (r : Rotas) : Nav → Rotas
  | .fica => r
  | .push pagina => ⟨⟨r.proxima, pagina⟩ :: r.pilha, r.saindo, r.proxima + 1⟩
  | .replace pagina =>
    ⟨⟨r.proxima, pagina⟩ :: r.pilha.tail, r.pilha.head?.toList ++ r.saindo, r.proxima + 1⟩
  | .pop => ⟨r.pilha.tail, r.pilha.head?.toList ++ r.saindo, r.proxima⟩
  | .dispose k => { r with saindo := r.saindo.eraseIdx k }
  | .reiniciar => ⟨[⟨r.proxima, .splash⟩], [], r.proxima + 1⟩

end Rotas

/-! ## Sessions -/

/-- Who reads the session: `initState` of `SplashPage`, `initState` of the `LoginPage` with the
given route, or an API login of `user` from the page with the given route. -/
inductive Leitor where
  | splash
  | loginInit (rota : ℕ)
  | loginApi (rota : ℕ) (user : Usuario)
  deriving DecidableEq

/-- The kinds of requests that are waited for.  The logins with e-mail and with Google differ only
before their responses. -/
inductive TipoPedido where
  | loginApi
  | firebase
  | cadastrar
  | digital
  deriving DecidableEq, Repr

/-- A request without a response, and the route of the page it is from. -/
structure Pedido where
  tipo : TipoPedido
  rota : ℕ
  deriving DecidableEq, Repr

/-- The response to a request. -/
inductive Resposta where
  /-- The outcome of the request of an API login. -/
  | http (answer : Except DartError Response)
  /-- A login with Firebase: the account, or an exception. -/
  | firebase (fuser : Option FirebaseUser)
  /-- A registration: the account, or an exception, which has a `message` or not. -/
  | cadastro (fuser : Except Bool FirebaseUser)
  /-- The verification of a fingerprint. -/
  | digital (ok : Bool)

/-- What is stored, what the running splash page has read of it and of Firebase, and what is
pending. -/
structure Sessao where
  prefs : Prefs Leitor
  fire : Bool
  splash : Option (Except DartError (Option Usuario))
  splashFire : Bool
  pedidos : List Pedido
  signOuts : ℕ

namespace Sessao

/-- `initState` of the page of a new route. -/
def initState (s : Sessao) (rota : ℕ) : Pagina → Sessao
  | .login => { s with prefs := s.prefs.issue (.read (.loginInit rota)) }
  | _ => s

/-- A new process: nothing is pending, and `initState` of `SplashPage` reads the session and the
sign-in state of Firebase and clears both. -/
def reiniciar (value : Option String) (fire : Bool) : Sessao where
  prefs := Usuario.clear (PendingRegister.issue ⟨value, []⟩ (.read .splash))
  fire := fire
  splash := none
  splashFire := fire
  pedidos := []
  signOuts := 1

/-- A tap that starts a request. -/
def pedir (s : Sessao) (tipo : TipoPedido) (rota : ℕ) : Sessao :=
  { s with pedidos := s.pedidos ++ [⟨tipo, rota⟩] }

/-- The oldest pending operation of the preferences takes effect. -/
def entregar (s : Sessao) : Sessao := { s with prefs := s.prefs.deliver }

end Sessao

/-! ## Steps -/

/-- What happens: the splash page goes on, the oldest operation of the preferences takes effect, a
button is tapped, back is pressed, a response arrives, a page that left is disposed of, a sign-out
takes effect, or the app is started anew. -/
inductive AppPasso where
  | splash
  | prefs
  | clickLogin (formOk : Bool)
  | clickLoginGoogle
  | clickGoogle
  | clickCadastreSe
  | clickFingerPrint
  | clickCadastrar
  | clickCancelar
  | clickLogout
  | clickOk
  | voltar
  | responder (k : ℕ) (r : Resposta)
  | dispose (k : ℕ)
  | signOut
  | reiniciar

/-- The state: the routes and the session. -/
structure App where
  rotas : Rotas
  sessao : Sessao

namespace App

/-- The state of a new process that finds `value` stored and Firebase signed in or not. -/
def inicio (value : Option String) (fire : Bool) : App :=
  ⟨⟨[⟨0, .splash⟩], [], 1⟩, .reiniciar value fire⟩

/-- A tap on the given page, which has to be on top; the handler is given its route. -/
def tocar (s : App) (pagina : Pagina) (handler : ℕ → Nav × Sessao) : Option (Nav × Sessao) :=
  match s.rotas.pilha with
  | [] => none
  | rota :: _ => if rota.pagina = pagina then some (handler rota.id) else none

/-- `alert`, called after an `await`. -/
def alert (s : App) (rota : ℕ) : Nav := s.rotas.depois rota (.push (.alerta rota))

/-- `_onClickLogin` of `LoginPage` from the response of the API login on. -/
def aposLogin (s : App) (rota : ℕ) (response : ApiResponse Usuario) : Nav :=
  if response.ok then s.rotas.depois rota (.replace .home) else s.alert rota

/-- A session that `get` completes with a user. -/
def temUsuario (value : Option String) : Bool :=
  match Usuario.get value with
  | .ok (some _) => true
  | _ => false

/-- The reader is answered with `value`. -/
def lida (s : App) (sessao : Sessao) (value : Option String) : Leitor → Nav × Sessao
  | .splash => (.fica, { sessao with splash := some (Usuario.get value) })
  | .loginInit rota =>
    (if temUsuario value then s.rotas.depois rota (.replace .home) else .fica, sessao)
  | .loginApi rota user => (s.aposLogin rota (LoginApi.conferir user value), sessao)

/-- Firebase signed an account in: the user is saved, then the page pushes `HomePage`, or it alerts
if the `save` threw. -/
def entrar (s : App) (sessao : Sessao) (rota : ℕ) (u : Usuario) : Nav × Sessao :=
  match u.save sessao.prefs with
  | .ok prefs => (s.rotas.depois rota (.push .home), { sessao with fire := true, prefs })
  | .error _ => (s.alert rota, { sessao with fire := true })

/-- The response to a request from the page with the given route. -/
def respondida (s : App) (sessao : Sessao) (rota : ℕ) :
    TipoPedido → Resposta → Option (Nav × Sessao)
  | .loginApi, .http answer =>
    match LoginApi.receber answer with
    | .salvo user text =>
      let prefs := (sessao.prefs.issue (.write text)).issue (.read (.loginApi rota user))
      some (.fica, { sessao with prefs })
    | .falha response => some (s.aposLogin rota response, sessao)
  | .firebase, .firebase (some fuser) => some (s.entrar sessao rota (.ofFirebase fuser))
  | .firebase, .firebase none => some (s.alert rota, sessao)
  | .cadastrar, .cadastro (.ok fuser) => some (s.entrar sessao rota (.ofCadastro fuser))
  -- The `catch` reads `e.message`, which throws again when there is none.
  | .cadastrar, .cadastro (.error message) =>
    some (if message then s.alert rota else .fica, sessao)
  | .digital, .digital ok =>
    some (if ok then s.rotas.depois rota (.replace .home) else .fica, sessao)
  | _, _ => none

/-- What a step asks of the navigator and the session after it, up to `initState` of a new page;
`none` if the step cannot happen. -/
def acao (s : App) : AppPasso → Option (Nav × Sessao)
  | .splash =>
    match s.sessao.splash with
    | some (.ok user) => s.tocar .splash fun _ =>
      (.replace (if user.isSome ∨ s.sessao.splashFire then .home else .login),
        { s.sessao with splash := none })
    | _ => none
  | .prefs =>
    match s.sessao.prefs.queue with
    | [] => none
    | .write _ :: _ => some (.fica, s.sessao.entregar)
    | .read leitor :: _ => some (s.lida s.sessao.entregar s.sessao.prefs.value leitor)
  | .clickLogin formOk => s.tocar .login fun rota =>
    (.fica, if formOk then s.sessao.pedir .loginApi rota else s.sessao)
  | .clickLoginGoogle => s.tocar .login fun rota => (.fica, s.sessao.pedir .firebase rota)
  | .clickGoogle => s.tocar .login fun rota => (.fica, s.sessao.pedir .firebase rota)
  | .clickCadastreSe => s.tocar .login fun _ => (.replace .cadastro, s.sessao)
  | .clickFingerPrint => s.tocar .login fun rota => (.fica, s.sessao.pedir .digital rota)
  | .clickCadastrar => s.tocar .cadastro fun rota => (.fica, s.sessao.pedir .cadastrar rota)
  | .clickCancelar => s.tocar .cadastro fun _ => (.replace .login, s.sessao)
  -- The `pop` closes the drawer, which is not a route.
  | .clickLogout => s.tocar .home fun _ =>
    (.replace .login,
      { s.sessao with prefs := Usuario.clear s.sessao.prefs, signOuts := s.sessao.signOuts + 1 })
  -- `alert` pops with the context of the page that called it.
  | .clickOk =>
    match s.rotas.topo with
    | some (.alerta rota) => some (s.rotas.depois rota .pop, s.sessao)
    | _ => none
  -- A dialog refuses to be left by back; back on the last route leaves the app.
  | .voltar =>
    match s.rotas.pilha with
    | ⟨_, .alerta _⟩ :: _ => some (.fica, s.sessao)
    | _ :: _ :: _ => some (.pop, s.sessao)
    | _ => none
  | .responder k r =>
    match s.sessao.pedidos[k]? with
    | none => none
    | some ⟨tipo, rota⟩ =>
      s.respondida { s.sessao with pedidos := s.sessao.pedidos.eraseIdx k } rota tipo r
  | .dispose k => if k < s.rotas.saindo.length then some (.dispose k, s.sessao) else none
  | .signOut =>
    if 0 < s.sessao.signOuts then
      some (.fica, { s.sessao with fire := false, signOuts := s.sessao.signOuts - 1 })
    else none
  | .reiniciar => some (.reiniciar, .reiniciar s.sessao.prefs.value s.sessao.fire)

/-- The state after what a step asks for: the navigator moves, and a new page initializes. -/
def aplicar (s : App) : Nav × Sessao → App
  | (.push pagina, sessao) =>
    ⟨s.rotas.navegar (.push pagina), sessao.initState s.rotas.proxima pagina⟩
  | (.replace pagina, sessao) =>
    ⟨s.rotas.navegar (.replace pagina), sessao.initState s.rotas.proxima pagina⟩
  | (nav, sessao) => ⟨s.rotas.navegar nav, sessao⟩

/-- A step; `none` if it cannot happen. -/
def step (s : App) (p : AppPasso) : Option App := (s.acao p).map s.aplicar

end App

end Carros
