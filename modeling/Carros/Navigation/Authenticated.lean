import Carros.Navigation.Steps

/-!
# Authenticated pages

Every API call of `HomePage` reads the token of the stored session, so the page needs a session
that `get` completes with a user.  The six ways to `HomePage` do not all see to that: the splash
page clears the session it found, a login with Firebase stores a user without roles, and a
fingerprint stores nothing.

`home_autenticada` shows that the session is there whenever `HomePage` is on top, over every run
whose steps keep it: `MantemSessao` names what they must not do.  A registration followed by a new
process does it (`home_autenticada_fails`).

The invariant has two parts.  A `HomePage` anywhere in the stack goes with a session that settles on
a user; and a pending read that will show `HomePage` is followed by no write that takes the user
away (`Confirma`).
-/

namespace Carros

open Dart StepRun PendingRegister

/-- A reader that `lido` makes show `HomePage` can rely on the session settling on a user. -/
def Leitor.Confirma (leitor : Leitor) (lido final : Option String) : Prop :=
  leitor.abre lido = true → App.temUsuario final = true

namespace App

variable {s s' : App} {p : AppPasso} {prefs : Prefs Leitor}

/-- The steps that keep the session.  The splash page goes on only if it found neither a user nor
a Firebase account; no login with Firebase succeeds; a fingerprint is verified only while a user is
stored; and Logout is tapped only when no other `HomePage` is in the stack and no pending read is
going to show one. -/
def MantemSessao (s : App) : AppPasso → Prop
  | .splash => s.sessao.splash = some (.ok none) ∧ s.sessao.splashFire = false
  | .responder _ (.firebase fuser) => fuser = none
  | .responder k (.digital ok) => ok → ∀ pedido, s.sessao.pedidos[k]? = some pedido →
    s.rotas.mounted pedido.rota → temUsuario s.sessao.prefs.settled
  | .clickLogout => homes s.rotas.pilha.tail = 0 ∧
    s.sessao.prefs.Answers fun leitor lido _ => leitor.abre lido = false
  | _ => True

/-- What keeps `HomePage` authenticated. -/
structure Autenticado (s : App) : Prop where
  home : 0 < homes s.rotas.pilha → temUsuario s.sessao.prefs.settled = true
  leituras : s.sessao.prefs.Answers Leitor.Confirma

/-- A session has a user exactly when `get` completes with one. -/
lemma temUsuario_iff {value : Option String} :
    temUsuario value = true ↔ ∃ u, Usuario.get value = .ok (some u) := by
  unfold temUsuario
  cases Usuario.get value with
  | error e => simp
  | ok user => cases user <;> simp

/-- The text of a user with roles, and an `int` for its id, is a session. -/
lemma temUsuario_of_saveText {u : Usuario} {text : String} (hid : u.IdInt64)
    (htext : u.saveText = .ok text) (hroles : u.roles ≠ none) : temUsuario (some text) = true :=
  temUsuario_iff.mpr ⟨u, by rw [Usuario.get_saveText hid htext, if_neg hroles]⟩

/-- What an API login saves is a session. -/
lemma temUsuario_of_receber {answer : Except DartError Response} {user : Usuario} {text : String}
    (h : LoginApi.receber answer = .salvo user text) : temUsuario (some text) = true :=
  temUsuario_iff.mpr ⟨user, LoginApi.get_of_receber h⟩

/-- What a registration saves is a session; a login with Firebase is excluded. -/
lemma temUsuario_of_conta {k : ℕ} {r : Resposta} {u : Usuario} {text : String}
    (hok : s.MantemSessao (.responder k r)) (hconta : r.conta = some u)
    (htext : u.saveText = .ok text) : temUsuario (some text) = true := by
  cases r with
  | http answer => cases hconta
  | digital ok => cases hconta
  | firebase fuser =>
    obtain rfl : fuser = none := hok
    cases hconta
  | cadastro fuser =>
    cases fuser with
    | error message => cases hconta
    | ok fuser =>
      obtain rfl := Option.some.inj hconta
      exact temUsuario_of_saveText (Usuario.readable_ofCadastro fuser).id htext
        (by simp [Usuario.ofCadastro])

/-- The `initState` of a new page changes nothing the session settles on. -/
lemma settled_aplicar (a : Nav × Sessao) :
    (s.aplicar a).sessao.prefs.settled = a.2.prefs.settled := by
  obtain ⟨nav, sessao⟩ := a
  cases nav with
  | push pagina => cases pagina <;> first | rfl | exact settled_issue_read _ _
  | replace pagina => cases pagina <;> first | rfl | exact settled_issue_read _ _
  | _ => rfl

/-- The read of a new `LoginPage` can rely on what it will see. -/
lemma confirma_initState {sessao : Sessao} (h : sessao.prefs.Answers Leitor.Confirma) (rota : ℕ)
    (pagina : Pagina) : (sessao.initState rota pagina).prefs.Answers Leitor.Confirma := by
  cases pagina with
  | login => exact h.issue_read id
  | _ => exact h

/-- The pending reads after an action can rely on what they will see if those before can. -/
lemma confirma_aplicar {a : Nav × Sessao} (h : a.2.prefs.Answers Leitor.Confirma) :
    (s.aplicar a).sessao.prefs.Answers Leitor.Confirma := by
  obtain ⟨nav, sessao⟩ := a
  cases nav with
  | push pagina => exact confirma_initState h _ _
  | replace pagina => exact confirma_initState h _ _
  | _ => exact h

/-- A write of a session is one every pending read can rely on. -/
lemma confirma_issue_write (h : prefs.Answers Leitor.Confirma) {text : String}
    (htext : temUsuario (some text) = true) :
    (prefs.issue (.write text)).Answers Leitor.Confirma :=
  h.issue_write fun _ _ _ _ => htext

/-- In a new process only the splash page reads, and it shows no `HomePage` by that alone. -/
lemma confirma_reiniciar (value : Option String) (fire : Bool) :
    (Sessao.reiniciar value fire).prefs.Answers Leitor.Confirma := by
  constructor
  · intro habre
    cases habre
  · exact trivial

/-- The pending reads can rely on what they will see after every step that keeps the session. -/
lemma MudaPrefs.confirma (h : s.MudaPrefs p prefs) (hok : s.MantemSessao p)
    (hs : s.sessao.prefs.Answers Leitor.Confirma) : prefs.Answers Leitor.Confirma := by
  cases h with
  | mantem => exact hs
  | entrega => exact hs.deliver
  | login hreceber =>
    have htext := temUsuario_of_receber hreceber
    refine (confirma_issue_write hs htext).issue_read fun _ => ?_
    rwa [settled_issue_write]
  | conta hconta htext => exact confirma_issue_write hs (temUsuario_of_conta hok hconta htext)
  | logout =>
    refine hok.2.issue_write fun leitor lido hfechado habre => ?_
    rw [hfechado] at habre
    cases habre
  | reinicio => exact confirma_reiniciar _ _

/-- A step that keeps the session and is neither Logout nor a new process leaves a user where there
was one. -/
lemma MudaPrefs.temUsuario (h : s.MudaPrefs p prefs) (hok : s.MantemSessao p)
    (hlogout : p ≠ .clickLogout) (hreiniciar : p ≠ .reiniciar)
    (hs : App.temUsuario s.sessao.prefs.settled = true) : App.temUsuario prefs.settled = true := by
  cases h with
  | mantem => exact hs
  | entrega => rwa [settled_deliver]
  | login hreceber =>
    rw [settled_issue_read, settled_issue_write]
    exact temUsuario_of_receber hreceber
  | conta hconta htext =>
    rw [settled_issue_write]
    exact temUsuario_of_conta hok hconta htext
  | logout => exact absurd rfl hlogout
  | reinicio => exact absurd rfl hreiniciar

/-- A step that keeps the session shows `HomePage` only over a session with a user. -/
lemma MostraHome.temUsuario {nav : Nav} {sessao : Sessao} (h : s.MostraHome p nav sessao)
    (hok : s.MantemSessao p) (hs : s.Autenticado) :
    App.temUsuario sessao.prefs.settled = true := by
  cases h with
  | splash hsplash huser =>
    obtain ⟨hnone, hfire⟩ := hok
    rw [hsplash] at hnone
    obtain rfl := Except.ok.inj (Option.some.inj hnone)
    simp [hfire] at huser
  | leitura hqueue hmounted habre hprefs =>
    rw [hprefs, settled_deliver]
    exact hs.leituras.of_queue_eq hqueue habre
  | conta hk hmounted hconta htext hprefs =>
    rw [hprefs, settled_issue_write]
    exact temUsuario_of_conta hok hconta htext
  | digital hk hmounted hprefs =>
    rw [hprefs]
    exact hok rfl _ hk hmounted

/-- Every step that keeps the session keeps `HomePage` authenticated. -/
lemma Autenticado.step (hs : s.Autenticado) (hok : s.MantemSessao p)
    (hstep : s.step p = some s') : s'.Autenticado := by
  obtain ⟨nav, sessao, hacao, rfl⟩ := step_eq_some.mp hstep
  have hmuda := (efeito_of_acao hacao).prefs
  constructor
  · intro hhome
    rw [settled_aplicar]
    rw [rotas_aplicar] at hhome
    by_cases hnav : nav.mostraHome = true
    · exact ((efeito_of_acao hacao).home hnav).temUsuario hok hs
    · have hle := s.rotas.homes_navegar_le (Bool.eq_false_iff.mpr hnav)
      by_cases hlogout : p = .clickLogout
      · subst hlogout
        -- Logout replaces the one `HomePage` there was.
        obtain ⟨rfl, -⟩ := acao_clickLogout hacao
        have hzero : homes s.rotas.pilha.tail = 0 := hok.1
        simp [Rotas.navegar, hzero] at hhome
      · by_cases hreiniciar : p = .reiniciar
        · subst hreiniciar
          obtain ⟨rfl, -⟩ := Prod.mk.inj (Option.some.inj hacao)
          cases hhome
        · exact hmuda.temUsuario hok hlogout hreiniciar (hs.home (Nat.lt_of_lt_of_le hhome hle))
  · exact confirma_aplicar (hmuda.confirma hok hs.leituras)

/-- A new process shows no `HomePage`. -/
lemma autenticado_inicio (value : Option String) (fire : Bool) :
    (App.inicio value fire).Autenticado where
  home := fun hhome => by cases hhome
  leituras := confirma_reiniciar value fire

end App

/-- **`HomePage` is authenticated.**  In every run whose steps keep the session, from whatever is
stored and whether Firebase is signed in or not: when `HomePage` is on top and no write is pending,
`get` completes with a user and the headers of every API call are defined. -/
theorem home_autenticada {value : Option String} {fire : Bool} {passos : List AppPasso} {s : App}
    (hmeets : RunMeets App.step App.MantemSessao (.inicio value fire) passos)
    (hrun : run App.step (.inicio value fire) passos = some s)
    (htopo : s.rotas.topo = some .home) (hquiet : s.sessao.prefs.Quiet) :
    (∃ u, Usuario.get s.sessao.prefs.value = .ok (some u)) ∧
      ∃ hs, headers s.sessao.prefs.value = .ok hs := by
  have hinv : s.Autenticado :=
    run_invariant (I := App.Autenticado) (fun _ _ _ hI hok hstep => hI.step hok hstep)
      (App.autenticado_inicio value fire) hmeets hrun
  have hhome : 0 < homes s.rotas.pilha := by
    rw [Rotas.homes_of_topo htopo]
    exact Nat.succ_pos _
  have hget := App.temUsuario_iff.mp (hquiet.settled ▸ hinv.home hhome)
  exact ⟨hget, (headers_ok_iff _).mpr hget⟩

/-- A registration, whose session has been written. -/
theorem home_autenticada_cadastro :
    let conta : FirebaseUser := ⟨some "uid", some "Ana", some "ana@mail.com", none⟩
    let passos : List AppPasso := [.prefs, .prefs, .splash, .prefs, .clickCadastreSe,
      .clickCadastrar, .responder 0 (.cadastro (.ok conta)), .prefs]
    ∃ s, run App.step (.inicio none false) passos = some s ∧
      (∃ u, Usuario.get s.sessao.prefs.value = .ok (some u)) ∧
      ∃ hs, headers s.sessao.prefs.value = .ok hs := by
  intro conta passos
  have hmeets : RunMeets App.step App.MantemSessao (.inicio none false) passos :=
    runMeets_cons trivial rfl <| runMeets_cons trivial rfl <| runMeets_cons ⟨rfl, rfl⟩ rfl <|
      runMeets_cons trivial rfl <| runMeets_cons trivial rfl <| runMeets_cons trivial rfl <|
      runMeets_cons trivial rfl <| runMeets_cons trivial rfl trivial
  exact ⟨_, rfl, home_autenticada hmeets rfl rfl fun _ hv => List.not_mem_nil hv⟩

/-- A registration, then a new process: the splash page finds the user, clears the session and goes
to `HomePage`. -/
theorem home_autenticada_fails :
    let conta : FirebaseUser := ⟨some "uid", some "Ana", some "ana@mail.com", none⟩
    let passos : List AppPasso := [.prefs, .prefs, .splash, .prefs, .clickCadastreSe,
      .clickCadastrar, .responder 0 (.cadastro (.ok conta)), .prefs, .reiniciar, .prefs, .prefs,
      .splash]
    ∃ s, run App.step (.inicio none false) passos = some s ∧ s.rotas.topo = some .home ∧
      s.sessao.prefs.Quiet ∧ ¬ ∃ u, Usuario.get s.sessao.prefs.value = .ok (some u) := by
  intro conta passos
  have hrun : (run App.step (.inicio none false) passos).map (fun s =>
      (s.rotas.topo, s.sessao.prefs.queue.length, s.sessao.prefs.value)) =
      some (some .home, 0, some "") := by decide +kernel
  obtain ⟨s, hs, heq⟩ := Option.map_eq_some_iff.mp hrun
  obtain ⟨htopo, hrest⟩ := Prod.mk.inj heq
  obtain ⟨hqueue, hvalue⟩ := Prod.mk.inj hrest
  refine ⟨s, hs, htopo, fun v hv => ?_, ?_⟩
  · rw [List.length_eq_zero_iff.mp hqueue] at hv
    cases hv
  · rw [hvalue]
    rintro ⟨u, hu⟩
    cases hu

end Carros
