import Carros.Base.RouteStack
import Carros.Base.StepRun
import Carros.Running.Model

/-!
# The pages behind the home page

The pages that open from `HomePage`: the search, the sheet and the page of a car, its menu, the
form, the map, the video and the site, and the dialogs of `alert` over them.

A successful save or delete shows a dialog whose `Ok` pops twice: `alert` pops the dialog, and its
callback pops whatever is on top then.  The answer may find other routes on top than the page that
asked, and several dialogs may be stacked.

* `Vitrine.confirmar_volta`: what `Ok` comes back to is the stack the answer found, without its top
  route if the answer was a success, whatever happened in between.
* `Vitrine.home_fica`: `HomePage` stays at the bottom as long as no answer finds its page on the way
  out.
* `Vitrine.eventos_run`: no event is sent without a success of its own.
-/

namespace Carros

open Dart

/-- The callback of a dialog. -/
inductive Retorno where
  | nenhum
  /-- The form was saved: pop. -/
  | salvo
  /-- The car was deleted: send the event, and pop. -/
  | deletado (tipo : Option String)
  deriving DecidableEq, Repr

/-- The pages, and the dialog `alert` shows for the page with the given route.  A menu knows the
page it opened on. -/
inductive PaginaVitrine where
  | home
  | busca
  | folha
  | carro
  | menu (rota : ℕ)
  | form
  | mapa
  | video
  | site
  | alerta (rota : ℕ) (callback : Retorno)
  deriving DecidableEq, Repr

/-- What the callback of a dialog asks of the navigator. -/
def Retorno.ops : Retorno → List (RouteOp PaginaVitrine)
  | .nenhum => []
  | .salvo => [.pop]
  | .deletado _ => [.pop]

/-- The events the callback of a dialog sends. -/
def Retorno.eventos : Retorno → List CarroEvent
  | .deletado tipo => [⟨"Carro Deletado", tipo⟩]
  | _ => []

/-- The requests of the pages. -/
inductive TipoPedidoVitrine where
  | salvar
  | deletar
  deriving DecidableEq, Repr

/-- A request without an answer, and the route of the page it is from. -/
structure PedidoVitrine where
  tipo : TipoPedidoVitrine
  rota : ℕ
  deriving DecidableEq, Repr

/-- The routes, the requests, and the events that were sent. -/
structure Vitrine where
  rotas : RouteStack PaginaVitrine
  pedidos : List PedidoVitrine
  eventos : List CarroEvent
  deriving DecidableEq

/-- What can happen. -/
inductive PassoVitrine where
  /-- `_onClickAdicionarCarro`. -/
  | adicionar
  /-- `_onClickSearch`. -/
  | search
  /-- `_onClickSite`. -/
  | site
  /-- `_onClickCarro` of a list. -/
  | clickCarro
  /-- `_onClickLongPress` of a list. -/
  | longPress
  /-- `Detalhes` in the sheet. -/
  | detalhes
  /-- The menu of the page of a car is opened. -/
  | popupMenu
  /-- `Editar`. -/
  | editar
  /-- `Deletar`. -/
  | deletar
  /-- `Share`. -/
  | share
  /-- `_onClickMapa` on the page of a car. -/
  | mapa (c : Carro)
  /-- `_onClickVideo` on the page of a car. -/
  | video (c : Carro)
  /-- `_onClickSalvar`, with a form that validates. -/
  | salvar
  /-- A request is answered; the car has this tipo then. -/
  | responder (p : PedidoVitrine) (ok : Bool) (tipo : Option String)
  /-- `Ok` in a dialog. -/
  | clickOk
  | voltar
  /-- A page that left is disposed of. -/
  | dispose (k : ℕ)
  deriving DecidableEq

namespace Vitrine

/-- The home page has just opened. -/
def inicio : Vitrine := ⟨⟨[⟨0, .home⟩], [], 1⟩, [], []⟩

/-- What a step asks of the navigator, the requests after it, and the events it sends. -/
structure Acao where
  ops : List (RouteOp PaginaVitrine) := []
  pedidos : List PedidoVitrine
  eventos : List CarroEvent := []

/-- The pages with a list of cars. -/
def lista : PaginaVitrine → Bool
  | .home => true
  | .busca => true
  | _ => false

/-- What an `Abertura` asks of the navigator, on the page with the given route. -/
def abrir (rota : ℕ) : Abertura → RouteOp PaginaVitrine
  | .mapaPage _ => .push .mapa
  | .videoApp => .push .video
  | .alerta _ => .push (.alerta rota .nenhum)

/-- The callback of the dialog that shows an answer. -/
def retorno (p : TipoPedidoVitrine) (ok : Bool) (tipo : Option String) : Retorno :=
  match p, ok with
  | _, false => .nenhum
  | .salvar, true => .salvo
  | .deletar, true => .deletado tipo

/-- The event that is sent with the dialog. -/
def aviso (p : TipoPedidoVitrine) (ok : Bool) (tipo : Option String) : List CarroEvent :=
  match p, ok with
  | .salvar, true => [⟨"Carro Salvado", tipo⟩]
  | _, _ => []

/-- A tap on a page, which has to be on top; the handler is given its route. -/
def tocar (s : Vitrine) (pagina : PaginaVitrine → Bool) (handler : ℕ → Acao) : Option Acao :=
  match s.rotas.stack with
  | [] => none
  | r :: _ => if pagina r.page then some (handler r.id) else none

/-- What a step does; `none` if it cannot happen. -/
def acao (s : Vitrine) : PassoVitrine → Option Acao
  | .adicionar => s.tocar (· = .home) fun _ => ⟨[.push .form], s.pedidos, []⟩
  | .search => s.tocar (· = .home) fun _ => ⟨[.push .busca], s.pedidos, []⟩
  | .site => s.tocar (· = .home) fun _ => ⟨[.push .site], s.pedidos, []⟩
  | .clickCarro => s.tocar lista fun _ => ⟨[.push .carro], s.pedidos, []⟩
  | .longPress => s.tocar lista fun _ => ⟨[.push .folha], s.pedidos, []⟩
  | .detalhes => s.tocar (· = .folha) fun _ => ⟨[.pop, .push .carro], s.pedidos, []⟩
  | .popupMenu => s.tocar (· = .carro) fun rota => ⟨[.push (.menu rota)], s.pedidos, []⟩
  | .editar =>
    match s.rotas.stack with
    | ⟨_, .menu _⟩ :: _ => some ⟨[.pop, .push .form], s.pedidos, []⟩
    | _ => none
  | .deletar =>
    match s.rotas.stack with
    | ⟨_, .menu rota⟩ :: _ => some ⟨[.pop], s.pedidos ++ [⟨.deletar, rota⟩], []⟩
    | _ => none
  | .share =>
    match s.rotas.stack with
    | ⟨_, .menu _⟩ :: _ => some ⟨[.pop], s.pedidos, []⟩
    | _ => none
  | .mapa c => s.tocar (· = .carro) fun rota =>
    ⟨[abrir rota (CarroPage.onClickMapa c)], s.pedidos, []⟩
  | .video c => s.tocar (· = .carro) fun rota =>
    ⟨[abrir rota (CarroPage.onClickVideo c)], s.pedidos, []⟩
  | .salvar => s.tocar (· = .form) fun rota => ⟨[], s.pedidos ++ [⟨.salvar, rota⟩], []⟩
  -- `alert` and the event need the context of the page, which is gone once it is disposed of.
  | .responder p ok tipo =>
    if p ∈ s.pedidos then
      if s.rotas.mounted p.rota then
        some ⟨[.push (.alerta p.rota (retorno p.tipo ok tipo))], s.pedidos.erase p,
          aviso p.tipo ok tipo⟩
      else some ⟨[], s.pedidos.erase p, []⟩
    else none
  -- `alert` pops with the context of the page that called it.
  | .clickOk =>
    match s.rotas.stack with
    | ⟨_, .alerta rota callback⟩ :: _ =>
      if s.rotas.mounted rota then
        some ⟨.pop :: callback.ops, s.pedidos, callback.eventos⟩
      else some ⟨[], s.pedidos, []⟩
    | _ => none
  -- A dialog refuses to be left by back; back on the last route leaves the app.
  | .voltar =>
    match s.rotas.stack with
    | ⟨_, .alerta _ _⟩ :: _ => some ⟨[], s.pedidos, []⟩
    | _ :: _ :: _ => some ⟨[.pop], s.pedidos, []⟩
    | _ => none
  | .dispose k =>
    if k < s.rotas.leaving.length then some ⟨[.dispose k], s.pedidos, []⟩ else none

/-- The state after what a step asks for. -/
def aplicar (s : Vitrine) (a : Acao) : Vitrine :=
  ⟨s.rotas.acts a.ops, a.pedidos, s.eventos ++ a.eventos⟩

/-- One step. -/
def step (s : Vitrine) (a : PassoVitrine) : Option Vitrine := (s.acao a).map s.aplicar

/-- A page that takes no part in what is proved below: neither the home page nor a menu nor a dialog
with a callback. -/
def Simples : PaginaVitrine → Prop
  | .home => False
  | .menu _ => False
  | .alerta _ callback => callback = .nenhum
  | _ => True

/-- What a step does, case by case. -/
inductive Efeito (s : Vitrine) : PassoVitrine → Acao → Prop
  | nada {a} : Efeito s a ⟨[], s.pedidos, []⟩
  | abre {a pagina} (hpagina : Simples pagina) : Efeito s a ⟨[.push pagina], s.pedidos, []⟩
  | menu {a r resto} (hs : s.rotas.stack = r :: resto) (hr : r.page = .carro) :
      Efeito s a ⟨[.push (.menu r.id)], s.pedidos, []⟩
  | fecha {a r resto} (hs : s.rotas.stack = r :: resto) (hhome : r.page = .home → resto ≠ [])
      (halerta : ∀ rota callback, r.page ≠ .alerta rota callback) :
      Efeito s a ⟨[.pop], s.pedidos, []⟩
  | troca {a r resto pagina} (hs : s.rotas.stack = r :: resto) (hhome : r.page ≠ .home)
      (halerta : ∀ rota callback, r.page ≠ .alerta rota callback) (hpagina : Simples pagina) :
      Efeito s a ⟨[.pop, .push pagina], s.pedidos, []⟩
  | deletar {a r resto rota} (hs : s.rotas.stack = r :: resto) (hr : r.page = .menu rota) :
      Efeito s a ⟨[.pop], s.pedidos ++ [⟨.deletar, rota⟩], []⟩
  | salvar {a r resto} (hs : s.rotas.stack = r :: resto) (hr : r.page = .form) :
      Efeito s a ⟨[], s.pedidos ++ [⟨.salvar, r.id⟩], []⟩
  | resposta {p ok tipo} (hp : p ∈ s.pedidos) (hm : s.rotas.mounted p.rota = true) :
      Efeito s (.responder p ok tipo) ⟨[.push (.alerta p.rota (retorno p.tipo ok tipo))],
        s.pedidos.erase p, aviso p.tipo ok tipo⟩
  | perdida {p ok tipo} (hp : p ∈ s.pedidos) :
      Efeito s (.responder p ok tipo) ⟨[], s.pedidos.erase p, []⟩
  | confirma {a r resto rota callback} (hs : s.rotas.stack = r :: resto)
      (hr : r.page = .alerta rota callback) :
      Efeito s a ⟨.pop :: callback.ops, s.pedidos, callback.eventos⟩
  | dispose {a k} : Efeito s a ⟨[.dispose k], s.pedidos, []⟩

variable {s s' : Vitrine} {a : PassoVitrine}

/-- A step does what it asks for. -/
lemma step_eq_some : s.step a = some s' ↔ ∃ acao, s.acao a = some acao ∧ s' = s.aplicar acao := by
  rw [step, Option.map_eq_some_iff]
  simp only [eq_comm]

/-- A tap finds its page on top. -/
lemma tocar_eq_some {pagina : PaginaVitrine → Bool} {handler : ℕ → Acao} {acao : Acao} :
    s.tocar pagina handler = some acao ↔
      ∃ r resto, s.rotas.stack = r :: resto ∧ pagina r.page = true ∧ acao = handler r.id := by
  unfold tocar
  cases s.rotas.stack with
  | nil => simp
  | cons r resto =>
    constructor
    · intro h
      obtain ⟨hpagina, h⟩ := Option.ite_none_right_eq_some.mp h
      exact ⟨r, resto, rfl, hpagina, (Option.some.inj h).symm⟩
    · rintro ⟨r', resto', heq, hpagina, rfl⟩
      obtain ⟨rfl, rfl⟩ := List.cons.inj heq
      exact if_pos hpagina

/-- What an `Abertura` opens takes no part. -/
lemma efeito_abrir (rota : ℕ) (abertura : Abertura) :
    Efeito s a ⟨[abrir rota abertura], s.pedidos, []⟩ := by
  cases abertura with
  | mapaPage c => exact .abre trivial
  | videoApp => exact .abre trivial
  | alerta msg => exact .abre rfl

/-- A step has one of the effects. -/
lemma efeito_of_acao {acao : Acao} (h : s.acao a = some acao) : Efeito s a acao := by
  cases a with
  | adicionar =>
    simp only [Vitrine.acao, tocar_eq_some] at h
    obtain ⟨r, resto, -, -, rfl⟩ := h
    exact .abre trivial
  | search =>
    simp only [Vitrine.acao, tocar_eq_some] at h
    obtain ⟨r, resto, -, -, rfl⟩ := h
    exact .abre trivial
  | site =>
    simp only [Vitrine.acao, tocar_eq_some] at h
    obtain ⟨r, resto, -, -, rfl⟩ := h
    exact .abre trivial
  | clickCarro =>
    simp only [Vitrine.acao, tocar_eq_some] at h
    obtain ⟨r, resto, -, -, rfl⟩ := h
    exact .abre trivial
  | longPress =>
    simp only [Vitrine.acao, tocar_eq_some] at h
    obtain ⟨r, resto, -, -, rfl⟩ := h
    exact .abre trivial
  | detalhes =>
    simp only [Vitrine.acao, tocar_eq_some, decide_eq_true_eq] at h
    obtain ⟨r, resto, hs, hr, rfl⟩ := h
    exact .troca hs (by simp [hr]) (by simp [hr]) trivial
  | popupMenu =>
    simp only [Vitrine.acao, tocar_eq_some, decide_eq_true_eq] at h
    obtain ⟨r, resto, hs, hr, rfl⟩ := h
    exact .menu hs hr
  | editar =>
    simp only [Vitrine.acao] at h
    split at h
    · rename_i hs
      obtain rfl := Option.some.inj h
      exact .troca hs (by simp) (by simp) trivial
    · cases h
  | deletar =>
    simp only [Vitrine.acao] at h
    split at h
    · rename_i hs
      obtain rfl := Option.some.inj h
      exact .deletar hs rfl
    · cases h
  | share =>
    simp only [Vitrine.acao] at h
    split at h
    · rename_i hs
      obtain rfl := Option.some.inj h
      exact .fecha hs (by simp) (by simp)
    · cases h
  | mapa c =>
    simp only [Vitrine.acao, tocar_eq_some] at h
    obtain ⟨r, resto, -, -, rfl⟩ := h
    exact efeito_abrir r.id _
  | video c =>
    simp only [Vitrine.acao, tocar_eq_some] at h
    obtain ⟨r, resto, -, -, rfl⟩ := h
    exact efeito_abrir r.id _
  | salvar =>
    simp only [Vitrine.acao, tocar_eq_some, decide_eq_true_eq] at h
    obtain ⟨r, resto, hs, hr, rfl⟩ := h
    exact .salvar hs hr
  | responder p ok tipo =>
    obtain ⟨hp, h⟩ := Option.ite_none_right_eq_some.mp h
    by_cases hm : s.rotas.mounted p.rota = true
    · rw [if_pos hm] at h
      obtain rfl := Option.some.inj h
      exact .resposta hp hm
    · rw [if_neg hm] at h
      obtain rfl := Option.some.inj h
      exact .perdida hp
  | clickOk =>
    simp only [Vitrine.acao] at h
    split at h
    · rename_i hs
      split at h
      · obtain rfl := Option.some.inj h
        exact .confirma hs rfl
      · obtain rfl := Option.some.inj h
        exact .nada
    · cases h
  | voltar =>
    simp only [Vitrine.acao] at h
    split at h
    · obtain rfl := Option.some.inj h
      exact .nada
    · rename_i r r' resto halerta hs
      obtain rfl := Option.some.inj h
      refine .fecha hs (by simp) fun rota callback hr => ?_
      obtain ⟨id, pagina⟩ := r
      obtain rfl : pagina = .alerta rota callback := hr
      exact halerta id rota callback rfl
    · cases h
  | dispose k =>
    obtain ⟨-, h⟩ := Option.ite_none_right_eq_some.mp h
    obtain rfl := Option.some.inj h
    exact .dispose

/-! ## What `Ok` comes back to -/

/-- The routes of a run are numbered. -/
lemma numbered_run {as : List PassoVitrine} {t : Vitrine}
    (hrun : StepRun.run step inicio as = some t) : t.rotas.Numbered := by
  have hacts : ∀ (rotas : RouteStack PaginaVitrine) ops, rotas.Numbered →
      (rotas.acts ops).Numbered := by
    intro rotas ops h
    induction ops generalizing rotas with
    | nil => exact h
    | cons op ops ih => exact ih _ (h.act op)
  have hinicio : inicio.rotas.Numbered := ⟨List.pairwise_singleton _ _, by simp [inicio]⟩
  refine StepRun.run_invariant_of_step (I := fun s : Vitrine => s.rotas.Numbered) ?_ hinicio hrun
  intro s a s' h ha
  obtain ⟨acao, -, rfl⟩ := step_eq_some.mp ha
  exact hacts _ _ h

/-- A run keeps what is under a route. -/
lemma under_run {r : Route PaginaVitrine} {st : List (Route PaginaVitrine)}
    {as : List PassoVitrine} {t : Vitrine} (h : s.rotas.Under r st)
    (hrun : StepRun.run step s as = some t) : t.rotas.Under r st := by
  refine StepRun.run_invariant_of_step (I := fun s : Vitrine => s.rotas.Under r st) ?_ h hrun
  intro s a s' h ha
  obtain ⟨acao, -, rfl⟩ := step_eq_some.mp ha
  exact h.acts acao.ops

/-- **What `Ok` comes back to.**  An answer arrives in any reachable state, for a page that is still
mounted, and any steps follow until its dialog is on top and `Ok` is tapped.  If the page was
disposed of in the meantime, nothing happens.  Otherwise the stack is the one the answer found, and
after a success the one under its top route, which need not be the page that asked. -/
theorem confirmar_volta {antes depois : List PassoVitrine} {s s₁ t t' : Vitrine}
    {p : PedidoVitrine} {ok : Bool} {tipo : Option String} {resto : List (Route PaginaVitrine)}
    (hantes : StepRun.run step inicio antes = some s)
    (hresposta : s.step (.responder p ok tipo) = some s₁)
    (hmounted : s.rotas.mounted p.rota = true)
    (hrun : StepRun.run step s₁ depois = some t)
    (htopo : t.rotas.stack = ⟨s.rotas.next, .alerta p.rota (retorno p.tipo ok tipo)⟩ :: resto)
    (hok : t.step .clickOk = some t') :
    t'.rotas.stack =
      if t.rotas.mounted p.rota then
        if ok then s.rotas.stack.tail else s.rotas.stack
      else t.rotas.stack := by
  obtain ⟨acao, hacao, rfl⟩ := step_eq_some.mp hresposta
  simp only [Vitrine.acao, hmounted, if_true] at hacao
  obtain ⟨-, hacao⟩ := Option.ite_none_right_eq_some.mp hacao
  obtain rfl := Option.some.inj hacao
  have hunder := under_run (RouteStack.under_push (numbered_run hantes)
    (.alerta p.rota (retorno p.tipo ok tipo))) hrun
  obtain rfl := hunder.tail_eq htopo
  obtain ⟨acao, hacao, rfl⟩ := step_eq_some.mp hok
  simp only [Vitrine.acao, htopo] at hacao
  by_cases hm : t.rotas.mounted p.rota = true
  · rw [if_pos hm] at hacao ⊢
    obtain rfl := Option.some.inj hacao
    cases ok with
    | false => simp [aplicar, RouteStack.act, htopo, retorno, Retorno.ops]
    | true =>
      cases hp : p.tipo <;> simp [aplicar, RouteStack.act, htopo, hp, retorno, Retorno.ops]
  · rw [if_neg hm] at hacao ⊢
    obtain rfl := Option.some.inj hacao
    rfl

/-- A form is saved twice, the dialog of an error covers that of the success, and both are
confirmed. -/
theorem confirmar_volta_coberto :
    ∃ s s₁ t t' resto, StepRun.run step inicio [.adicionar, .salvar, .salvar] = some s ∧
      s.rotas.mounted 1 = true ∧ s.step (.responder ⟨.salvar, 1⟩ true none) = some s₁ ∧
      StepRun.run step s₁ [.responder ⟨.salvar, 1⟩ false none, .clickOk] = some t ∧
      t.rotas.stack = ⟨s.rotas.next, .alerta 1 .salvo⟩ :: resto ∧ t.step .clickOk = some t' ∧
      t'.rotas.stack =
        if t.rotas.mounted 1 then if true then s.rotas.stack.tail else s.rotas.stack
        else t.rotas.stack := by
  have hs : StepRun.run step inicio [.adicionar, .salvar, .salvar] =
      some ⟨⟨[⟨1, .form⟩, ⟨0, .home⟩], [], 2⟩, [⟨.salvar, 1⟩, ⟨.salvar, 1⟩], []⟩ := by decide
  have hs₁ : step ⟨⟨[⟨1, .form⟩, ⟨0, .home⟩], [], 2⟩, [⟨.salvar, 1⟩, ⟨.salvar, 1⟩], []⟩
      (.responder ⟨.salvar, 1⟩ true none) =
      some ⟨⟨[⟨2, .alerta 1 .salvo⟩, ⟨1, .form⟩, ⟨0, .home⟩], [], 3⟩, [⟨.salvar, 1⟩],
        [⟨"Carro Salvado", none⟩]⟩ := by decide
  have ht : StepRun.run step ⟨⟨[⟨2, .alerta 1 .salvo⟩, ⟨1, .form⟩, ⟨0, .home⟩], [], 3⟩,
      [⟨.salvar, 1⟩], [⟨"Carro Salvado", none⟩]⟩
      [.responder ⟨.salvar, 1⟩ false none, .clickOk] =
      some ⟨⟨[⟨2, .alerta 1 .salvo⟩, ⟨1, .form⟩, ⟨0, .home⟩], [⟨3, .alerta 1 .nenhum⟩], 4⟩, [],
        [⟨"Carro Salvado", none⟩]⟩ := by decide
  obtain ⟨t', hok⟩ : ∃ t', step ⟨⟨[⟨2, .alerta 1 .salvo⟩, ⟨1, .form⟩, ⟨0, .home⟩],
      [⟨3, .alerta 1 .nenhum⟩], 4⟩, [], [⟨"Carro Salvado", none⟩]⟩ .clickOk = some t' := ⟨_, rfl⟩
  exact ⟨_, _, _, t', _, hs, rfl, hs₁, ht, rfl, hok,
    confirmar_volta hs hs₁ rfl ht rfl hok⟩

/-! ## The home page -/

/-- The route of the home page. -/
def rotaHome : Route PaginaVitrine := ⟨0, .home⟩

/-- The dialog pops twice. -/
def Sucesso (r : Route PaginaVitrine) : Prop :=
  ∃ rota callback, r.page = .alerta rota callback ∧ callback ≠ .nenhum

/-- The home page is at the bottom and nowhere else, and a dialog that pops twice has two routes
under it. -/
def Firme : List (Route PaginaVitrine) → Prop
  | [] => False
  | r :: st => r = rotaHome ∧ st = [] ∨
    r.page ≠ .home ∧ r.id ≠ 0 ∧ (∀ rota, r.page = .menu rota → rota ≠ 0) ∧
      (Sucesso r → 2 ≤ st.length) ∧ Firme st

/-- A page over the home page. -/
lemma Firme.push {st : List (Route PaginaVitrine)} (h : Firme st) {r : Route PaginaVitrine}
    (hhome : r.page ≠ .home) (hid : r.id ≠ 0) (hmenu : ∀ rota, r.page = .menu rota → rota ≠ 0)
    (hsucesso : Sucesso r → 2 ≤ st.length) : Firme (r :: st) :=
  Or.inr ⟨hhome, hid, hmenu, hsucesso, h⟩

/-- A route that is not the home page is over it. -/
lemma Firme.of_ne_home {r : Route PaginaVitrine} {st : List (Route PaginaVitrine)}
    (h : Firme (r :: st)) (hr : r.page ≠ .home) :
    r.id ≠ 0 ∧ (∀ rota, r.page = .menu rota → rota ≠ 0) ∧ (Sucesso r → 2 ≤ st.length) ∧
      Firme st := by
  rcases h with ⟨rfl, -⟩ | ⟨-, h⟩
  · exact absurd rfl hr
  · exact h

/-- A route with others under it is not the home page. -/
lemma Firme.ne_home {r : Route PaginaVitrine} {st : List (Route PaginaVitrine)}
    (h : Firme (r :: st)) (hst : r.page = .home → st ≠ []) : r.page ≠ .home := by
  rcases h with ⟨rfl, rfl⟩ | ⟨hr, -⟩
  · exact absurd rfl (hst rfl)
  · exact hr

/-- What is over another route is over the home page. -/
lemma Firme.of_cons_cons {r r' : Route PaginaVitrine} {st : List (Route PaginaVitrine)}
    (h : Firme (r :: r' :: st)) : Firme (r' :: st) := by
  rcases h with ⟨-, hnil⟩ | ⟨-, -, -, -, h⟩
  · cases hnil
  · exact h

/-- The home page is at the bottom. -/
lemma Firme.getLast? {st : List (Route PaginaVitrine)} (h : Firme st) :
    st.getLast? = some rotaHome := by
  induction st with
  | nil => exact h.elim
  | cons r st ih =>
    rcases h with ⟨rfl, rfl⟩ | ⟨-, -, -, -, h⟩
    · rfl
    · rw [List.getLast?_cons, ih h]
      rfl

/-- A route with another number than the home page is over it. -/
lemma Firme.two_le {st : List (Route PaginaVitrine)} (h : Firme st) {r : Route PaginaVitrine}
    (hr : r ∈ st) (hid : r.id ≠ 0) : 2 ≤ st.length := by
  cases st with
  | nil => cases hr
  | cons r' st =>
    cases st with
    | nil =>
      obtain rfl := List.mem_singleton.mp hr
      rcases h with ⟨rfl, -⟩ | ⟨-, -, -, -, h⟩
      · exact absurd rfl hid
      · exact h.elim
    | cons => simp

/-- The home page is at the bottom of the routes, and no other will have its number. -/
structure RotasComHome (rotas : RouteStack PaginaVitrine) : Prop where
  firme : Firme rotas.stack
  next : 0 < rotas.next

section RotasComHome

variable {rotas : RouteStack PaginaVitrine} {r : Route PaginaVitrine}
  {st : List (Route PaginaVitrine)}

/-- The home page is under what is on top. -/
lemma RotasComHome.firme_of_stack (h : RotasComHome rotas) (hs : rotas.stack = r :: st) :
    Firme (r :: st) := hs ▸ h.firme

/-- A page is opened. -/
lemma RotasComHome.push (h : RotasComHome rotas) {pagina : PaginaVitrine} (hhome : pagina ≠ .home)
    (hmenu : ∀ rota, pagina = .menu rota → rota ≠ 0)
    (hsucesso : Sucesso ⟨rotas.next, pagina⟩ → 2 ≤ rotas.stack.length) :
    RotasComHome (rotas.act (.push pagina)) :=
  ⟨h.firme.push hhome (Nat.ne_of_gt h.next) hmenu hsucesso, Nat.succ_pos _⟩

/-- A page that takes no part is opened. -/
lemma RotasComHome.abre (h : RotasComHome rotas) {pagina : PaginaVitrine}
    (hpagina : Simples pagina) : RotasComHome (rotas.act (.push pagina)) := by
  refine h.push ?_ ?_ ?_
  · rintro rfl
    exact hpagina
  · rintro rota rfl
    exact hpagina.elim
  · rintro ⟨rota, callback, rfl, hcallback⟩
    exact absurd hpagina hcallback

/-- A page other than the home page is closed. -/
lemma RotasComHome.pop (h : RotasComHome rotas) (hs : rotas.stack = r :: st) (hr : r.page ≠ .home) :
    RotasComHome (rotas.act .pop) := by
  refine ⟨?_, h.next⟩
  rw [RouteStack.act, hs]
  exact ((h.firme_of_stack hs).of_ne_home hr).2.2.2

/-- A dialog is confirmed. -/
lemma RotasComHome.confirmar (h : RotasComHome rotas) {rota : ℕ} {callback : Retorno}
    (hs : rotas.stack = r :: st) (hr : r.page = .alerta rota callback) :
    RotasComHome (rotas.acts (.pop :: callback.ops)) := by
  have hhome : r.page ≠ .home := by simp [hr]
  have hpop := h.pop hs hhome
  by_cases hcallback : callback = .nenhum
  · subst hcallback
    exact hpop
  · have hops : callback.ops = [.pop] := by cases callback <;> simp_all [Retorno.ops]
    -- There are two routes under the dialog, and the second stays.
    obtain ⟨-, -, hsucesso, hst⟩ := (h.firme_of_stack hs).of_ne_home hhome
    have hlength := hsucesso ⟨rota, callback, hr, hcallback⟩
    match st, hlength, hst with
    | r' :: r'' :: st', _, hst =>
      rw [hops]
      refine ⟨?_, h.next⟩
      simp only [RouteStack.acts_cons, RouteStack.acts_nil, RouteStack.act, hs, List.tail_cons]
      exact hst.of_cons_cons

end RotasComHome

/-- The home page is at the bottom, and the requests are those of other pages. -/
structure ComHome (s : Vitrine) : Prop where
  rotas : RotasComHome s.rotas
  pedidos : ∀ p ∈ s.pedidos, p.rota ≠ 0

/-- An answer finds its page on the stack, or disposed of. -/
def NaPilha (s : Vitrine) : PassoVitrine → Prop
  | .responder p _ _ => s.rotas.mounted p.rota = true → ∃ r ∈ s.rotas.stack, r.id = p.rota
  | _ => True

/-- Every step keeps the home page, if answers find their pages on the stack. -/
lemma ComHome.step (h : s.ComHome) (hok : s.NaPilha a) (ha : s.step a = some s') : s'.ComHome := by
  obtain ⟨acao, hacao, rfl⟩ := step_eq_some.mp ha
  obtain ⟨hrotas, hpedidos⟩ := h
  cases efeito_of_acao hacao with
  | nada => exact ⟨hrotas, hpedidos⟩
  | abre hpagina => exact ⟨hrotas.abre hpagina, hpedidos⟩
  | menu hs hr =>
    have hid := (hrotas.firme_of_stack hs).of_ne_home (by simp [hr])
    refine ⟨hrotas.push (by simp) ?_ ?_, hpedidos⟩
    · rintro rota ⟨rfl⟩
      exact hid.1
    · rintro ⟨rota, callback, hpagina, -⟩
      cases hpagina
  | fecha hs hhome halerta =>
    exact ⟨hrotas.pop hs ((hrotas.firme_of_stack hs).ne_home hhome), hpedidos⟩
  | troca hs hhome halerta hpagina => exact ⟨(hrotas.pop hs hhome).abre hpagina, hpedidos⟩
  | deletar hs hr =>
    have hmenu := (hrotas.firme_of_stack hs).of_ne_home (by simp [hr])
    refine ⟨hrotas.pop hs (by simp [hr]), fun p hp => ?_⟩
    rcases List.mem_append.mp hp with hp | hp
    · exact hpedidos p hp
    · obtain rfl := List.mem_singleton.mp hp
      exact hmenu.2.1 _ hr
  | salvar hs hr =>
    have hid := (hrotas.firme_of_stack hs).of_ne_home (by simp [hr])
    refine ⟨hrotas, fun p hp => ?_⟩
    rcases List.mem_append.mp hp with hp | hp
    · exact hpedidos p hp
    · obtain rfl := List.mem_singleton.mp hp
      exact hid.1
  | resposta hp hm =>
    refine ⟨hrotas.push (by simp) (by simp) fun _ => ?_, fun p hp => ?_⟩
    · obtain ⟨r, hr, hid⟩ := hok hm
      exact hrotas.firme.two_le hr (hid ▸ hpedidos _ hp)
    · exact hpedidos p (List.mem_of_mem_erase hp)
  | perdida hp => exact ⟨hrotas, fun p hp => hpedidos p (List.mem_of_mem_erase hp)⟩
  | confirma hs hr => exact ⟨hrotas.confirmar hs hr, hpedidos⟩
  | dispose => exact ⟨⟨hrotas.firme, hrotas.next⟩, hpedidos⟩

/-- **The home page stays.**  In a run in which no answer finds its page on the way out, the home
page is at the bottom of the stack in the end, whatever dialogs were confirmed. -/
theorem home_fica {as : List PassoVitrine} {t : Vitrine}
    (hmeets : StepRun.RunMeets step NaPilha inicio as)
    (hrun : StepRun.run step inicio as = some t) :
    t.rotas.stack.getLast? = some ⟨0, .home⟩ := by
  have hinicio : inicio.ComHome :=
    ⟨⟨Or.inl ⟨rfl, rfl⟩, Nat.one_pos⟩, fun p hp => by cases hp⟩
  have ht : t.ComHome :=
    StepRun.run_invariant (fun s a s' h hok ha => h.step hok ha) hinicio hmeets hrun
  exact ht.rotas.firme.getLast?

/-- A car is saved in the form, and its dialog confirmed. -/
theorem home_fica_salvar :
    ∃ t, StepRun.run step inicio
        [.adicionar, .salvar, .responder ⟨.salvar, 1⟩ true none, .clickOk] = some t ∧
      t.rotas.stack.getLast? = some ⟨0, .home⟩ := by
  obtain ⟨t, hrun⟩ : ∃ t, StepRun.run step inicio
      [.adicionar, .salvar, .responder ⟨.salvar, 1⟩ true none, .clickOk] = some t := ⟨_, rfl⟩
  refine ⟨t, hrun, home_fica ?_ hrun⟩
  refine StepRun.runMeets_cons trivial rfl (StepRun.runMeets_cons trivial rfl
    (StepRun.runMeets_cons ?_ rfl (StepRun.runMeets_cons trivial rfl trivial)))
  exact fun _ => ⟨⟨1, .form⟩, List.mem_cons_self, rfl⟩

-- The form is left, and the answer finds it before it is disposed of: `Ok` pops the home page.
example : (StepRun.run step inicio [.adicionar, .salvar, .voltar,
    .responder ⟨.salvar, 1⟩ true none, .clickOk]).map (fun t => t.rotas.stack) = some [] := by
  decide

/-! ## Events -/

/-- The step is the answer of a success. -/
def sucesso : PassoVitrine → Bool
  | .responder _ ok _ => ok
  | _ => false

/-- The route is a dialog that will send an event. -/
def avisa (r : Route PaginaVitrine) : Bool :=
  match r.page with
  | .alerta _ (.deletado _) => true
  | _ => false

/-- The events that were sent, and those that dialogs on the stack will send. -/
def saldo (s : Vitrine) : ℕ := s.eventos.length + s.rotas.stack.countP avisa

/-- What is closed sends nothing any more. -/
lemma countP_act_pop (rotas : RouteStack PaginaVitrine) :
    (rotas.act .pop).stack.countP avisa ≤ rotas.stack.countP avisa := by
  cases h : rotas.stack with
  | nil => simp [RouteStack.act, h]
  | cons r st => simp [RouteStack.act, h, List.countP_cons]

/-- A page that takes no part sends nothing. -/
lemma avisa_of_simples {id : ℕ} {pagina : PaginaVitrine} (h : Simples pagina) :
    avisa ⟨id, pagina⟩ = false := by
  cases pagina with
  | alerta rota callback =>
    obtain rfl : callback = .nenhum := h
    rfl
  | _ => rfl

/-- A success sends an event with its dialog or lets the dialog send it, and an error neither. -/
lemma saldo_resposta (p : TipoPedidoVitrine) (ok : Bool) (tipo : Option String) (id rota : ℕ) :
    (aviso p ok tipo).length + (if avisa ⟨id, .alerta rota (retorno p ok tipo)⟩ then 1 else 0) =
      if ok then 1 else 0 := by
  cases ok <;> cases p <;> rfl

/-- A dialog that is confirmed sends what it was to send. -/
lemma saldo_callback {r : Route PaginaVitrine} {rota : ℕ} {callback : Retorno}
    (hr : r.page = .alerta rota callback) :
    callback.eventos.length = if avisa r then 1 else 0 := by
  rw [avisa, hr]
  cases callback <;> rfl

/-- The callback of a dialog closes a page or none. -/
lemma countP_acts_ops (rotas : RouteStack PaginaVitrine) (callback : Retorno) :
    (rotas.acts callback.ops).stack.countP avisa ≤ rotas.stack.countP avisa := by
  cases callback with
  | nenhum => exact Nat.le_refl _
  | salvo => exact countP_act_pop rotas
  | deletado tipo => exact countP_act_pop rotas

/-- A step sends an event, or shows a dialog that will, only if it is the answer of a success. -/
lemma saldo_step (ha : s.step a = some s') :
    s'.saldo ≤ s.saldo + if sucesso a then 1 else 0 := by
  obtain ⟨acao, hacao, rfl⟩ := step_eq_some.mp ha
  have hpop := countP_act_pop s.rotas
  cases efeito_of_acao hacao with
  | nada => simp [saldo, aplicar]
  | abre hpagina =>
    simp [saldo, aplicar, RouteStack.act, avisa_of_simples hpagina]
  | menu hs hr => simp [saldo, aplicar, RouteStack.act, avisa]
  | fecha hs hhome halerta =>
    simp only [saldo, aplicar, List.append_nil, RouteStack.acts_cons, RouteStack.acts_nil]
    omega
  | @troca _ r resto pagina hs hhome halerta hpagina =>
    have hpush : ((s.rotas.act .pop).act (.push pagina)).stack.countP avisa =
        (s.rotas.act .pop).stack.countP avisa :=
      List.countP_cons_of_neg (by simp [avisa_of_simples hpagina])
    simp only [saldo, aplicar, List.append_nil, RouteStack.acts_cons, RouteStack.acts_nil, hpush]
    omega
  | deletar hs hr =>
    simp only [saldo, aplicar, List.append_nil, RouteStack.acts_cons, RouteStack.acts_nil]
    omega
  | salvar hs hr => simp [saldo, aplicar]
  | @resposta p ok tipo hp hm =>
    have hresposta := saldo_resposta p.tipo ok tipo s.rotas.next p.rota
    have hsucesso : (if sucesso (.responder p ok tipo) then 1 else 0) = if ok then 1 else 0 := rfl
    simp only [saldo, aplicar, List.length_append, RouteStack.acts_cons, RouteStack.acts_nil,
      RouteStack.act, List.countP_cons, hsucesso]
    omega
  | perdida hp => simp [saldo, aplicar]
  | @confirma _ r resto rota callback hs hr =>
    have hcallback := saldo_callback hr
    have hops := countP_acts_ops (s.rotas.act .pop) callback
    have htopo : s.rotas.stack.countP avisa =
        (s.rotas.act .pop).stack.countP avisa + if avisa r then 1 else 0 := by
      rw [RouteStack.act, hs, List.countP_cons, List.tail_cons]
    simp only [saldo, aplicar, List.length_append, RouteStack.acts_cons]
    omega
  | dispose => simp [saldo, aplicar, RouteStack.act]

/-- **No event without a success.**  In every run the events sent, together with the dialogs on the
stack that will send one, are at most as many as the answers that were successes. -/
theorem eventos_run {as : List PassoVitrine} {t : Vitrine}
    (hrun : StepRun.run step inicio as = some t) :
    t.eventos.length + t.rotas.stack.countP avisa ≤ as.countP sucesso := by
  have h := StepRun.run_count (p := sucesso) (I := fun s n => s.saldo ≤ n) (n := 0) ?_ ?_ hrun
  · rwa [Nat.zero_add] at h
  · intro s a s' n hn ha
    exact (saldo_step ha).trans (Nat.add_le_add_right hn _)
  · exact Nat.le_refl 0

/-- A car is deleted, and its dialog not confirmed yet. -/
theorem eventos_run_deletar :
    ∃ t, StepRun.run step inicio
        [.clickCarro, .popupMenu, .deletar, .responder ⟨.deletar, 1⟩ true none] = some t ∧
      t.eventos.length + t.rotas.stack.countP avisa ≤ 1 := by
  obtain ⟨t, hrun⟩ : ∃ t, StepRun.run step inicio
      [.clickCarro, .popupMenu, .deletar, .responder ⟨.deletar, 1⟩ true none] = some t := ⟨_, rfl⟩
  exact ⟨t, hrun, eventos_run hrun⟩

end Vitrine

end Carros
