import Carros.Navigation.Steps

/-!
# Logout

Logout replaces the top route by a `LoginPage`.  Whether a `HomePage` stays behind depends on how
many there are in the stack: the logins with Firebase and the registration push one on top of what
is there, the other ways to sign in put one in place of the top.

`logout_sem_home` shows that no `HomePage` stays as long as none is shown over another one.  Two
Firebase logins that wait for their responses at the same time do just that
(`logout_duas_homes_fails`).
-/

namespace Carros

open Dart StepRun

namespace App

variable {s s' : App} {p : AppPasso}

/-- No `HomePage` is shown over another: when one is pushed there is none in the stack, and when one
replaces the top there is none below it. -/
def UmaHome (s : App) : AppPasso → Prop
  | .splash => homes s.rotas.pilha.tail = 0
  | .prefs => ∀ leitor q, s.sessao.prefs.queue = .read leitor :: q → leitor.mounted s.rotas →
    leitor.abre s.sessao.prefs.value → homes s.rotas.pilha.tail = 0
  | .responder k r => ∀ pedido, s.sessao.pedidos[k]? = some pedido →
    s.rotas.mounted pedido.rota →
      match r with
      | .digital ok => ok → homes s.rotas.pilha.tail = 0
      | r => r.conta.isSome → homes s.rotas.pilha = 0
  | _ => True

/-- A step that shows `HomePage`, none being below it, leaves one. -/
lemma MostraHome.homes_navegar {nav : Nav} {sessao : Sessao} (h : s.MostraHome p nav sessao)
    (hok : s.UmaHome p) : homes (s.rotas.navegar nav).pilha = 1 := by
  cases h with
  | splash =>
    have hzero : homes s.rotas.pilha.tail = 0 := hok
    simpa [Rotas.navegar] using hzero
  | leitura hqueue hmounted habre =>
    simpa [Rotas.navegar] using hok _ _ hqueue hmounted habre
  | @conta k r pedido u text _ hk hmounted hconta =>
    have hhomes := hok pedido hk hmounted
    cases r with
    | http answer => cases hconta
    | digital ok => cases hconta
    | firebase fuser => simpa [Rotas.navegar] using hhomes (by simp [hconta])
    | cadastro fuser => simpa [Rotas.navegar] using hhomes (by simp [hconta])
  | digital hk hmounted => simpa [Rotas.navegar] using hok _ hk hmounted rfl

/-- A step that shows no `HomePage` over another keeps the stack at one at most. -/
lemma homes_le_one_step (hle : homes s.rotas.pilha ≤ 1) (hok : s.UmaHome p)
    (hstep : s.step p = some s') : homes s'.rotas.pilha ≤ 1 := by
  obtain ⟨nav, sessao, hacao, rfl⟩ := step_eq_some.mp hstep
  rw [rotas_aplicar]
  by_cases hnav : nav.mostraHome = true
  · exact Nat.le_of_eq (((efeito_of_acao hacao).home hnav).homes_navegar hok)
  · exact Nat.le_trans (s.rotas.homes_navegar_le (Bool.eq_false_iff.mpr hnav)) hle

/-- Logout leaves the `HomePage`s that were below the top. -/
lemma homes_clickLogout (hstep : s.step .clickLogout = some s') :
    homes s'.rotas.pilha + 1 = homes s.rotas.pilha := by
  obtain ⟨nav, sessao, hacao, rfl⟩ := step_eq_some.mp hstep
  obtain ⟨rfl, htopo⟩ := acao_clickLogout hacao
  rw [rotas_aplicar, Rotas.homes_of_topo htopo]
  simp [Rotas.navegar]

/-- Going back adds no `HomePage`. -/
lemma homes_voltar_le (hstep : s.step .voltar = some s') :
    homes s'.rotas.pilha ≤ homes s.rotas.pilha := by
  obtain ⟨nav, sessao, hacao, rfl⟩ := step_eq_some.mp hstep
  rw [rotas_aplicar]
  refine s.rotas.homes_navegar_le ?_
  by_contra hnav
  cases (efeito_of_acao hacao).home (Bool.not_eq_false _ ▸ hnav)

/-- Going back any number of times adds no `HomePage`. -/
lemma homes_voltar_run_le {n : ℕ} (hrun : run step s (List.replicate n .voltar) = some s') :
    homes s'.rotas.pilha ≤ homes s.rotas.pilha := by
  induction n generalizing s with
  | zero =>
    obtain rfl : s = s' := by simpa using hrun
    exact Nat.le_refl _
  | succ n ih =>
    obtain ⟨s₁, hstep, hrest⟩ := run_cons_eq_some.mp hrun
    exact Nat.le_trans (ih hrest) (homes_voltar_le hstep)

end App

/-- **Logout leaves no `HomePage` behind.**  In every run in which no `HomePage` is shown over
another, right after a tap on Logout no route of the stack is a `HomePage`, and going back does not
show one. -/
theorem logout_sem_home {value : Option String} {fire : Bool} {passos : List AppPasso} {s : App}
    (hmeets : RunMeets App.step App.UmaHome (.inicio value fire) (passos ++ [.clickLogout]))
    (hrun : run App.step (.inicio value fire) (passos ++ [.clickLogout]) = some s) :
    (∀ rota ∈ s.rotas.pilha, rota.pagina ≠ .home) ∧
      ∀ n t, run App.step s (List.replicate n .voltar) = some t → t.rotas.topo ≠ some .home := by
  rw [run_append] at hrun
  obtain ⟨s₁, hrun₁, hlogout⟩ := Option.bind_eq_some_iff.mp hrun
  obtain ⟨s₂, hstep, hnil⟩ := run_cons_eq_some.mp hlogout
  obtain rfl : s₂ = s := by simpa using hnil
  have hinicio : homes (App.inicio value fire).rotas.pilha ≤ 1 := Nat.zero_le 1
  have hle : homes s₁.rotas.pilha ≤ 1 :=
    run_invariant (I := fun s => homes s.rotas.pilha ≤ 1)
      (fun _ _ _ hI hok hstep => App.homes_le_one_step hI hok hstep)
      hinicio hmeets.of_append hrun₁
  have hzero : homes s₂.rotas.pilha = 0 := by
    have hlogout := App.homes_clickLogout hstep
    omega
  refine ⟨homes_eq_zero.mp hzero, fun n t hvoltar htopo => ?_⟩
  have hback := App.homes_voltar_run_le hvoltar
  have hone := Rotas.homes_of_topo htopo
  omega

/-- A registration, then Logout. -/
theorem logout_sem_home_cadastro :
    let conta : FirebaseUser := ⟨some "uid", some "Ana", some "ana@mail.com", none⟩
    let passos : List AppPasso := [.prefs, .prefs, .splash, .clickCadastreSe, .clickCadastrar,
      .responder 0 (.cadastro (.ok conta))]
    ∃ s, run App.step (.inicio none false) (passos ++ [.clickLogout]) = some s ∧
      (∀ rota ∈ s.rotas.pilha, rota.pagina ≠ .home) ∧
      ∀ n t, run App.step s (List.replicate n .voltar) = some t → t.rotas.topo ≠ some .home := by
  intro conta passos
  have hmeets : RunMeets App.step App.UmaHome (.inicio none false) (passos ++ [.clickLogout]) :=
    runMeets_cons (fun _ _ _ _ _ => rfl) rfl <| runMeets_cons (fun _ _ _ _ _ => rfl) rfl <|
      runMeets_cons rfl rfl <| runMeets_cons trivial rfl <| runMeets_cons trivial rfl <|
      runMeets_cons (fun _ _ _ _ => rfl) rfl <| runMeets_cons trivial rfl trivial
  exact ⟨_, rfl, logout_sem_home hmeets rfl⟩

/-- Two Firebase logins wait for their responses at the same time; both succeed, and the second
`HomePage` covers the first. -/
theorem logout_duas_homes_fails :
    let conta : FirebaseUser := ⟨some "uid", some "Ana", some "ana@mail.com", none⟩
    let passos : List AppPasso := [.prefs, .prefs, .splash, .prefs, .clickLoginGoogle,
      .clickLoginGoogle, .responder 0 (.firebase (some conta)),
      .responder 0 (.firebase (some conta)), .prefs, .prefs]
    ∃ s, run App.step (.inicio none false) (passos ++ [.clickLogout]) = some s ∧
      s.sessao.pedidos = [] ∧ ¬ (∀ rota ∈ s.rotas.pilha, rota.pagina ≠ .home) ∧
      ∃ t, run App.step s [.voltar] = some t ∧ t.rotas.topo = some .home := by
  intro conta passos
  exact ⟨_, rfl, rfl, by decide, _, rfl, rfl⟩

end Carros
