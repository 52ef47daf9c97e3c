import Carros.Navigation.App

/-!
# What a step can do

The steps of the app, read backwards.  `MostraHome` lists the four ways in which `HomePage` is
shown and `MudaPrefs` the ways in which the preferences change; every step that happens is covered
(`efeito_of_acao`).  `homes` counts the `HomePage`s among some routes, and a step that shows none
adds none.
-/

namespace Carros

open Dart

/-! ## Routes -/

/-- The number of routes that are a `HomePage`. -/
def homes (rotas : List Rota) : ℕ := rotas.countP fun rota => rota.pagina = .home

/-- The navigator is asked for a `HomePage`. -/
def Nav.mostraHome : Nav → Bool
  | .push pagina => pagina = .home
  | .replace pagina => pagina = .home
  | _ => false

/-- A push shows the page that is pushed. -/
@[simp] lemma Nav.mostraHome_push (pagina : Pagina) :
    (Nav.push pagina).mostraHome = decide (pagina = .home) := rfl

/-- A replacement shows the page that comes instead. -/
@[simp] lemma Nav.mostraHome_replace (pagina : Pagina) :
    (Nav.replace pagina).mostraHome = decide (pagina = .home) := rfl

/-- Staying shows nothing new. -/
@[simp] lemma Nav.mostraHome_fica : Nav.fica.mostraHome = false := rfl

/-- A `pop` shows no new route. -/
@[simp] lemma Nav.mostraHome_pop : Nav.pop.mostraHome = false := rfl

/-- One route is a `HomePage` or not. -/
@[simp] lemma homes_cons (rota : Rota) (rotas : List Rota) :
    homes (rota :: rotas) = homes rotas + if rota.pagina = .home then 1 else 0 := by
  simp [homes, List.countP_cons]

/-- No `HomePage` is counted exactly when no route is one. -/
lemma homes_eq_zero {rotas : List Rota} :
    homes rotas = 0 ↔ ∀ rota ∈ rotas, rota.pagina ≠ .home := by
  simp [homes, List.countP_eq_zero]

/-- Without the top route there are no more `HomePage`s. -/
lemma homes_tail_le (rotas : List Rota) : homes rotas.tail ≤ homes rotas := by
  cases rotas with
  | nil => exact Nat.le_refl _
  | cons rota rotas => simp

/-- A `HomePage` on top is one more than those below. -/
lemma Rotas.homes_of_topo {r : Rotas} (h : r.topo = some .home) :
    homes r.pilha = homes r.pilha.tail + 1 := by
  obtain ⟨rota, hhead, hpagina⟩ := Option.map_eq_some_iff.mp h
  obtain ⟨rest, hpilha⟩ := List.head?_eq_some_iff.mp hhead
  simp [hpilha, hpagina]

/-- The navigator adds a `HomePage` only if asked for one. -/
lemma Rotas.homes_navegar_le (r : Rotas) {nav : Nav} (h : nav.mostraHome = false) :
    homes (r.navegar nav).pilha ≤ homes r.pilha := by
  cases nav with
  | fica => exact Nat.le_refl _
  | push pagina =>
    have hne : pagina ≠ .home := by simpa using h
    simp [navegar, hne]
  | replace pagina =>
    have hne : pagina ≠ .home := by simpa using h
    simpa [navegar, hne] using homes_tail_le r.pilha
  | pop => exact homes_tail_le r.pilha
  | dispose k => exact Nat.le_refl _
  | reiniciar => simp [navegar, homes]

/-- A page that asks for a `HomePage` after an `await` is mounted. -/
@[simp] lemma Rotas.mostraHome_depois (r : Rotas) (id : ℕ) (nav : Nav) :
    (r.depois id nav).mostraHome = (r.mounted id && nav.mostraHome) := by
  unfold depois
  cases r.mounted id <;> simp

/-- A mounted page gets what it asks for. -/
lemma Rotas.depois_of_mounted {r : Rotas} {id : ℕ} (h : r.mounted id = true) (nav : Nav) :
    r.depois id nav = nav := if_pos h

/-! ## Taps and readers -/

/-- The user that is saved when the response signs an account in with Firebase. -/
def Resposta.conta : Resposta → Option Usuario
  | .firebase (some fuser) => some (.ofFirebase fuser)
  | .cadastro (.ok fuser) => some (.ofCadastro fuser)
  | _ => none

/-- The page of the reader is mounted. -/
def Leitor.mounted (r : Rotas) : Leitor → Bool
  | .splash => false
  | .loginInit rota => r.mounted rota
  | .loginApi rota _ => r.mounted rota

/-- The reader shows `HomePage` when it is answered with `value`. -/
def Leitor.abre (value : Option String) : Leitor → Bool
  | .splash => false
  | .loginInit _ => App.temUsuario value
  | .loginApi _ user => (LoginApi.conferir user value).ok

namespace App

variable {s s' : App} {p : AppPasso} {nav : Nav} {sessao : Sessao}

/-- A step that happens is an action, carried out. -/
lemma step_eq_some : s.step p = some s' ↔
    ∃ nav sessao, s.acao p = some (nav, sessao) ∧ s.aplicar (nav, sessao) = s' := by
  simp [step]

/-- A tap that happens hits the page on top. -/
lemma tocar_eq_some {pagina : Pagina} {handler : ℕ → Nav × Sessao} :
    s.tocar pagina handler = some (nav, sessao) ↔
      ∃ rota rest, s.rotas.pilha = rota :: rest ∧ rota.pagina = pagina ∧
        handler rota.id = (nav, sessao) := by
  unfold tocar
  cases s.rotas.pilha with
  | nil => simp
  | cons rota rest => simp [Option.ite_none_right_eq_some]

/-- The routes after an action are what the navigator makes of it. -/
@[simp] lemma rotas_aplicar (a : Nav × Sessao) : (s.aplicar a).rotas = s.rotas.navegar a.1 := by
  obtain ⟨nav, sessao⟩ := a
  cases nav <;> rfl

/-- `alert` shows no `HomePage`. -/
@[simp] lemma mostraHome_alert (rota : ℕ) : (s.alert rota).mostraHome = false := by
  simp [alert]

/-- The branches of the steps that show `HomePage`: the splash page found a user, a read of the
session was answered with one, an account was signed in with Firebase, a fingerprint was
verified. -/
inductive MostraHome (s : App) : AppPasso → Nav → Sessao → Prop
  | splash {user : Option Usuario} {sessao : Sessao} (hsplash : s.sessao.splash = some (.ok user))
      (huser : user.isSome ∨ s.sessao.splashFire) : MostraHome s .splash (.replace .home) sessao
  | leitura {leitor : Leitor} {q : List (RegisterOp String Leitor)} {sessao : Sessao}
      (hqueue : s.sessao.prefs.queue = .read leitor :: q) (hmounted : leitor.mounted s.rotas)
      (habre : leitor.abre s.sessao.prefs.value)
      (hprefs : sessao.prefs = s.sessao.prefs.deliver) :
      MostraHome s .prefs (.replace .home) sessao
  | conta {k : ℕ} {r : Resposta} {pedido : Pedido} {u : Usuario} {text : String} {sessao : Sessao}
      (hk : s.sessao.pedidos[k]? = some pedido) (hmounted : s.rotas.mounted pedido.rota)
      (hconta : r.conta = some u) (htext : u.saveText = .ok text)
      (hprefs : sessao.prefs = s.sessao.prefs.issue (.write text)) :
      MostraHome s (.responder k r) (.push .home) sessao
  | digital {k : ℕ} {pedido : Pedido} {sessao : Sessao}
      (hk : s.sessao.pedidos[k]? = some pedido) (hmounted : s.rotas.mounted pedido.rota)
      (hprefs : sessao.prefs = s.sessao.prefs) :
      MostraHome s (.responder k (.digital true)) (.replace .home) sessao

/-- What a step does to the preferences, up to the `initState` of a new page. -/
inductive MudaPrefs (s : App) : AppPasso → Prefs Leitor → Prop
  | mantem {p : AppPasso} : MudaPrefs s p s.sessao.prefs
  | entrega : MudaPrefs s .prefs s.sessao.prefs.deliver
  | login {k rota : ℕ} {answer : Except DartError Response} {user : Usuario} {text : String}
      (h : LoginApi.receber answer = .salvo user text) :
      MudaPrefs s (.responder k (.http answer))
        ((s.sessao.prefs.issue (.write text)).issue (.read (.loginApi rota user)))
  | conta {k : ℕ} {r : Resposta} {u : Usuario} {text : String} (hconta : r.conta = some u)
      (htext : u.saveText = .ok text) :
      MudaPrefs s (.responder k r) (s.sessao.prefs.issue (.write text))
  | logout : MudaPrefs s .clickLogout (Usuario.clear s.sessao.prefs)
  | reinicio {value : Option String} {fire : Bool} :
      MudaPrefs s .reiniciar (Sessao.reiniciar value fire).prefs

/-- A save that went through. -/
lemma save_eq_ok {u : Usuario} {prefs prefs' : Prefs Leitor} (h : u.save prefs = .ok prefs') :
    ∃ text, u.saveText = .ok text ∧ prefs' = prefs.issue (.write text) := by
  unfold Usuario.save at h
  cases htext : u.saveText with
  | error e => simp [htext, Except.map] at h
  | ok text => exact ⟨text, rfl, by simpa [htext, Except.map] using h.symm⟩

/-- What is known of an action: if it shows `HomePage`, it took one of the branches that do, and it
changed the preferences in one of the ways there are. -/
structure Efeito (s : App) (p : AppPasso) (nav : Nav) (sessao : Sessao) : Prop where
  home : nav.mostraHome = true → s.MostraHome p nav sessao
  prefs : s.MudaPrefs p sessao.prefs

/-- A branch that shows no `HomePage` and leaves the preferences alone. -/
lemma Efeito.quieto (hnav : nav.mostraHome = false) (hprefs : sessao.prefs = s.sessao.prefs) :
    s.Efeito p nav sessao := by
  constructor
  · intro hhome
    rw [hnav] at hhome
    cases hhome
  · exact hprefs ▸ .mantem

/-- The end of an API login shows `HomePage` if it succeeded and its page is mounted. -/
lemma mostraHome_aposLogin {rota : ℕ} {response : ApiResponse Usuario} :
    (s.aposLogin rota response).mostraHome = (response.ok && s.rotas.mounted rota) := by
  unfold aposLogin
  cases response.ok <;> simp

/-- A tap whose handler only moves between pages or starts a request. -/
lemma efeito_tocar {pagina : Pagina} {handler : ℕ → Nav × Sessao}
    (h : s.tocar pagina handler = some (nav, sessao))
    (hquieto : ∀ rota, (handler rota).1.mostraHome = false ∧
      (handler rota).2.prefs = s.sessao.prefs) : s.Efeito p nav sessao := by
  obtain ⟨rota, rest, -, -, heq⟩ := tocar_eq_some.mp h
  obtain ⟨hnav, hprefs⟩ := hquieto rota.id
  rw [heq] at hnav hprefs
  exact .quieto hnav hprefs

/-- An account that Firebase signed in is saved, and its page pushes `HomePage`. -/
lemma efeito_entrar {sessao' : Sessao} {k : ℕ} {r : Resposta} {pedido : Pedido} {u : Usuario}
    (hk : s.sessao.pedidos[k]? = some pedido) (hsessao : sessao.prefs = s.sessao.prefs)
    (hconta : r.conta = some u) (h : s.entrar sessao pedido.rota u = (nav, sessao')) :
    s.Efeito (.responder k r) nav sessao' := by
  unfold entrar at h
  cases hsave : u.save sessao.prefs with
  | ok prefs =>
    obtain ⟨text, htext, rfl⟩ := save_eq_ok hsave
    obtain ⟨rfl, rfl⟩ := Prod.mk.inj (by simpa only [hsave] using h)
    rw [hsessao]
    constructor
    · intro hnav
      have hmounted : s.rotas.mounted pedido.rota = true := by simpa using hnav
      rw [Rotas.depois_of_mounted hmounted]
      exact .conta hk hmounted hconta htext rfl
    · exact .conta hconta htext
  | error e =>
    obtain ⟨rfl, rfl⟩ := Prod.mk.inj (by simpa only [hsave] using h)
    exact .quieto (mostraHome_alert _) hsessao

/-- The response to a request. -/
lemma efeito_respondida {sessao' : Sessao} {k : ℕ} {pedido : Pedido} {r : Resposta}
    (hk : s.sessao.pedidos[k]? = some pedido) (hsessao : sessao.prefs = s.sessao.prefs)
    (h : s.respondida sessao pedido.rota pedido.tipo r = some (nav, sessao')) :
    s.Efeito (.responder k r) nav sessao' := by
  obtain ⟨tipo, rota⟩ := pedido
  unfold respondida at h
  split at h
  · split at h
    · rename_i hreceber
      obtain ⟨rfl, rfl⟩ := Prod.mk.inj (Option.some.inj h)
      constructor
      · intro hnav
        cases hnav
      · rw [hsessao]
        exact .login hreceber
    · rename_i hreceber
      obtain ⟨rfl, rfl⟩ := Prod.mk.inj (Option.some.inj h)
      refine .quieto ?_ hsessao
      rw [mostraHome_aposLogin, LoginApi.ok_of_receber hreceber]
      rfl
  · exact efeito_entrar hk hsessao rfl (Option.some.inj h)
  · obtain ⟨rfl, rfl⟩ := Prod.mk.inj (Option.some.inj h)
    exact .quieto (mostraHome_alert rota) hsessao
  · exact efeito_entrar hk hsessao rfl (Option.some.inj h)
  · rename_i message htipo
    obtain ⟨rfl, rfl⟩ := Prod.mk.inj (Option.some.inj h)
    refine .quieto ?_ hsessao
    split_ifs
    · exact mostraHome_alert rota
    · rfl
  · rename_i ok htipo
    obtain ⟨rfl, rfl⟩ := Prod.mk.inj (Option.some.inj h)
    constructor
    · intro hnav
      cases ok with
      | false => cases hnav
      | true =>
        have hmounted : s.rotas.mounted rota = true := by simpa using hnav
        rw [if_pos rfl, Rotas.depois_of_mounted hmounted]
        exact .digital hk hmounted hsessao
    · exact hsessao ▸ .mantem
  · cases h

/-- A read shows `HomePage` if its page is mounted and the answer is one for it; the read itself is
taken from the queue. -/
lemma efeito_lida {leitor : Leitor} {q : List (RegisterOp String Leitor)}
    (hqueue : s.sessao.prefs.queue = .read leitor :: q)
    (h : s.lida s.sessao.entregar s.sessao.prefs.value leitor = (nav, sessao)) :
    s.Efeito .prefs nav sessao := by
  cases leitor with
  | splash =>
    obtain ⟨rfl, rfl⟩ := Prod.mk.inj h
    constructor
    · intro hnav
      cases hnav
    · exact .entrega
  | loginInit rota =>
    obtain ⟨rfl, rfl⟩ := Prod.mk.inj h
    constructor
    · intro hnav
      split_ifs at hnav ⊢ with huser
      · have hmounted : s.rotas.mounted rota = true := by simpa using hnav
        rw [Rotas.depois_of_mounted hmounted]
        exact .leitura hqueue hmounted huser rfl
      · cases hnav
    · exact .entrega
  | loginApi rota user =>
    obtain ⟨rfl, rfl⟩ := Prod.mk.inj h
    constructor
    · intro hnav
      obtain ⟨hok, hmounted⟩ := Bool.and_eq_true_iff.mp (mostraHome_aposLogin ▸ hnav)
      rw [aposLogin, if_pos hok, Rotas.depois_of_mounted hmounted]
      exact .leitura hqueue hmounted hok rfl
    · exact .entrega

/-- **What an action does.**  Every action that happens shows `HomePage` only in the branches of
`MostraHome`, and changes the preferences only as listed in `MudaPrefs`. -/
theorem efeito_of_acao (h : s.acao p = some (nav, sessao)) : s.Efeito p nav sessao := by
  cases p with
  | splash =>
    simp only [acao] at h
    split at h
    · rename_i user hsplash
      obtain ⟨rota, rest, -, -, heq⟩ := tocar_eq_some.mp h
      obtain ⟨rfl, rfl⟩ := Prod.mk.inj heq
      constructor
      · intro hnav
        split_ifs at hnav ⊢ with huser
        · exact .splash hsplash huser
        · cases hnav
      · exact .mantem
    · cases h
  | prefs =>
    simp only [acao] at h
    split at h
    · cases h
    · obtain ⟨rfl, rfl⟩ := Prod.mk.inj (Option.some.inj h)
      constructor
      · intro hnav
        cases hnav
      · exact .entrega
    · rename_i leitor q hqueue
      exact efeito_lida hqueue (Option.some.inj h)
  | clickLogin formOk =>
    simp only [acao] at h
    exact efeito_tocar h fun rota => ⟨rfl, by cases formOk <;> rfl⟩
  | clickLoginGoogle | clickGoogle | clickCadastreSe | clickFingerPrint | clickCadastrar
  | clickCancelar =>
    simp only [acao] at h
    exact efeito_tocar h fun rota => ⟨rfl, rfl⟩
  | clickLogout =>
    simp only [acao] at h
    obtain ⟨rota, rest, -, -, heq⟩ := tocar_eq_some.mp h
    obtain ⟨rfl, rfl⟩ := Prod.mk.inj heq
    constructor
    · intro hnav
      cases hnav
    · exact .logout
  | clickOk =>
    simp only [acao] at h
    split at h
    · obtain ⟨rfl, rfl⟩ := Prod.mk.inj (Option.some.inj h)
      exact .quieto (by simp) rfl
    · cases h
  | voltar =>
    simp only [acao] at h
    split at h
    · obtain ⟨rfl, rfl⟩ := Prod.mk.inj (Option.some.inj h)
      exact .quieto rfl rfl
    · obtain ⟨rfl, rfl⟩ := Prod.mk.inj (Option.some.inj h)
      exact .quieto rfl rfl
    · cases h
  | responder k r =>
    simp only [acao] at h
    split at h
    · cases h
    · rename_i tipo rota hk
      exact efeito_respondida hk (by rfl) h
  | dispose k =>
    simp only [acao] at h
    split at h
    · obtain ⟨rfl, rfl⟩ := Prod.mk.inj (Option.some.inj h)
      exact .quieto rfl rfl
    · cases h
  | signOut =>
    simp only [acao] at h
    split at h
    · obtain ⟨rfl, rfl⟩ := Prod.mk.inj (Option.some.inj h)
      exact .quieto rfl rfl
    · cases h
  | reiniciar =>
    simp only [acao] at h
    obtain ⟨rfl, rfl⟩ := Prod.mk.inj (Option.some.inj h)
    constructor
    · intro hnav
      cases hnav
    · exact .reinicio

/-- What a tap on Logout does. -/
lemma acao_clickLogout (h : s.acao .clickLogout = some (nav, sessao)) :
    nav = .replace .login ∧ s.rotas.topo = some .home := by
  simp only [acao] at h
  obtain ⟨rota, rest, hpilha, hpagina, heq⟩ := tocar_eq_some.mp h
  obtain ⟨rfl, -⟩ := Prod.mk.inj heq
  exact ⟨rfl, by simp [Rotas.topo, hpilha, hpagina]⟩

end App

end Carros
