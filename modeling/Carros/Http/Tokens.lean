import Carros.Base.StepRun
import Carros.Http.Helper
import Carros.Session.Codec

/-!
# The session of a request

The wrappers of `utils/http_helper.dart` read the session before they send, and in between the
session can be saved and cleared any number of times.  Any number of requests wait for their
headers here, next to the other calls of `Usuario.get`, while logins and logouts go on and the
preferences apply what was issued in order.

`Fila.pedido_da_sessao` proves that a request is sent with the headers of the session that was
stored or on its way when the wrapper was called, or fails because there was none; a session saved
later does not get into it, and one cleared later is not kept out.  `Fila.depois_do_logout`
concludes that a wrapper called after a logout sends nothing as long as nobody logs in, and
`Fila.pedido_do_ultimo_login` that what a wrapper sends has the token of the user who logged in
last, and that it sends nothing for a user without roles.
-/

namespace Carros

open Dart

/-- How far a wrapper has come. -/
inductive EtapaPedido where
  /-- `_headers` waits for the preferences. -/
  | esperando
  /-- The request was sent with these headers. -/
  | enviado (hs : List (String × String))
  /-- There was no user to take a token from. -/
  | falhou
  deriving DecidableEq, Repr

/-- A call of `get`, `post`, `put` or `delete`. -/
structure ChamadaHttp where
  method : Method
  url : String
  body : Option String
  etapa : EtapaPedido
  deriving DecidableEq, Repr

/-- The preferences, whose reads are tagged with the number of their call, and the calls of the
wrappers. -/
structure Fila where
  prefs : Prefs (Option ℕ)
  pedidos : List ChamadaHttp

/-- What can happen. -/
inductive FilaPasso where
  /-- A wrapper is called. -/
  | chamar (method : Method) (url : String) (body : Option String)
  /-- `Usuario.get` is called by somebody else. -/
  | ler
  /-- A session is saved or cleared. -/
  | sessao (c : SessionCall)
  /-- The oldest pending operation on the preferences takes effect. -/
  | entregar

/-- What becomes of a request when its session is read. -/
def EtapaPedido.depois (stored : Option String) : EtapaPedido :=
  match headers stored with
  | .ok hs => .enviado hs
  | .error _ => .falhou

/-- The request of a call. -/
def ChamadaHttp.fixo (p : ChamadaHttp) : Method × String × Option String :=
  (p.method, p.url, p.body)

namespace Fila

/-- The preferences an earlier run of the app left, and no calls. -/
def inicio (value : Option String) : Fila := ⟨⟨value, []⟩, []⟩

/-- The headers of a call are there. -/
def responder (s : Fila) (k : ℕ) (stored : Option String) : Fila :=
  match s.pedidos[k]? with
  | some p => { s with pedidos := s.pedidos.set k { p with etapa := .depois stored } }
  | none => s

/-- One step. -/
def step (s : Fila) : FilaPasso → Option Fila
  | .chamar method url body =>
    some ⟨s.prefs.issue (.read (some s.pedidos.length)),
      s.pedidos ++ [⟨method, url, body, .esperando⟩]⟩
  | .ler => some { s with prefs := s.prefs.issue (.read none) }
  | .sessao c => some { s with prefs := c.make s.prefs }
  | .entregar =>
    match s.prefs.queue with
    | [] => none
    | .read (some k) :: _ =>
      some ({ s with prefs := s.prefs.deliver }.responder k s.prefs.value)
    | _ :: _ => some { s with prefs := s.prefs.deliver }

/-- The sessions of the calls: a pending read will be answered with the session of its call, and a
call that does not wait came to what its session makes of it. -/
structure Conta (s : Fila) (sessoes : List (Option String)) : Prop where
  tamanho : sessoes.length = s.pedidos.length
  leituras : s.prefs.Answers fun who v _ => ∀ k, who = some k → sessoes[k]? = some v
  pedidos : ∀ (k : ℕ) (p : ChamadaHttp), s.pedidos[k]? = some p →
    p.etapa = .esperando ∧ some k ∈ s.prefs.readers ∨
      ∃ v, sessoes[k]? = some v ∧ p.etapa = .depois v

variable {s : Fila} {sessoes : List (Option String)}

/-- No calls, no sessions. -/
lemma conta_inicio (value : Option String) : (inicio value).Conta [] :=
  ⟨rfl, trivial, fun k p hp => by cases hp⟩

/-- A call of a wrapper has the session the preferences settle on. -/
lemma Conta.chamar (h : s.Conta sessoes) (method : Method) (url : String) (body : Option String) :
    Conta ⟨s.prefs.issue (.read (some s.pedidos.length)),
      s.pedidos ++ [⟨method, url, body, .esperando⟩]⟩ (sessoes ++ [s.prefs.settled]) := by
  have hantes : ∀ (k : ℕ) v, sessoes[k]? = some v →
      (sessoes ++ [s.prefs.settled])[k]? = some v := fun k v hv =>
    (List.getElem?_append_left (List.getElem?_eq_some_iff.mp hv).1).trans hv
  refine ⟨by simp [h.tamanho], ?_, fun k p hp => ?_⟩
  · refine PendingRegister.Answers.issue_read (h.leituras.imp ?_) ?_
    · intro who _ v w hwho k hk
      exact hantes k v (hwho k hk)
    · rintro k hk
      obtain rfl := Option.some.inj hk
      rw [← h.tamanho]
      exact List.getElem?_concat_length
  · rw [PendingRegister.readers_issue_read]
    rcases Nat.lt_or_ge k s.pedidos.length with hlt | hge
    · rw [List.getElem?_append_left hlt] at hp
      rcases h.pedidos k p hp with ⟨hetapa, hmem⟩ | ⟨v, hv, hetapa⟩
      · exact Or.inl ⟨hetapa, List.mem_append_left _ hmem⟩
      · exact Or.inr ⟨v, hantes k v hv, hetapa⟩
    · rw [List.getElem?_append_right hge] at hp
      obtain ⟨hk, rfl⟩ := List.getElem?_eq_some_iff.mp hp
      obtain rfl : k = s.pedidos.length := by
        rw [List.length_singleton] at hk
        omega
      exact Or.inl ⟨by simp, List.mem_append_right _ (List.mem_singleton_self _)⟩

/-- What is issued for others does not touch the calls. -/
lemma Conta.outra (h : s.Conta sessoes) {prefs : Prefs (Option ℕ)}
    (hleituras : prefs.Answers fun who v _ => ∀ k, who = some k → sessoes[k]? = some v)
    (hreaders : ∀ who ∈ s.prefs.readers, who ∈ prefs.readers) :
    Conta { s with prefs := prefs } sessoes := by
  refine ⟨h.tamanho, hleituras, fun k p hp => ?_⟩
  rcases h.pedidos k p hp with ⟨hetapa, hmem⟩ | hdepois
  · exact Or.inl ⟨hetapa, hreaders _ hmem⟩
  · exact Or.inr hdepois

/-- A session is saved or cleared. -/
lemma Conta.sessao (h : s.Conta sessoes) (c : SessionCall) :
    Conta { s with prefs := c.make s.prefs } sessoes := by
  obtain ⟨text, hmake⟩ : ∃ text, c.make s.prefs = s.prefs.issue (.write text) := by
    cases c with
    | clear => exact ⟨_, rfl⟩
    | save u =>
      obtain ⟨text, htext⟩ := u.property.roles.exists_saveText
      exact ⟨text, by simp only [SessionCall.make, Usuario.save, htext, Except.map]⟩
  rw [hmake]
  refine h.outra (h.leituras.issue_write fun who v hP => hP) fun who hwho => ?_
  rwa [PendingRegister.readers_issue_write]

/-- A pending operation takes effect. -/
lemma Conta.entregar (h : s.Conta sessoes) {s' : Fila} (ha : s.step .entregar = some s') :
    s'.Conta sessoes := by
  cases hq : s.prefs.queue with
  | nil => simp [step, hq] at ha
  | cons op q =>
    cases op with
    | write v =>
      simp only [step, hq, Option.some.injEq] at ha
      subst ha
      refine h.outra h.leituras.deliver fun who hwho => ?_
      have hreaders : s.prefs.readers = s.prefs.deliver.readers := by
        rw [PendingRegister.readers, PendingRegister.readers, PendingRegister.deliver, hq]
        rfl
      exact hreaders ▸ hwho
    | read who =>
      have hreaders := PendingRegister.readers_of_queue_eq hq
      cases who with
      | none =>
        simp only [step, hq, Option.some.injEq] at ha
        subst ha
        refine ⟨h.tamanho, h.leituras.deliver, fun k p hp => ?_⟩
        rcases h.pedidos k p hp with ⟨hetapa, hmem⟩ | hdepois
        · rw [hreaders, List.mem_cons] at hmem
          exact Or.inl ⟨hetapa, hmem.resolve_left (by simp)⟩
        · exact Or.inr hdepois
      | some k =>
        simp only [step, hq, Option.some.injEq] at ha
        subst ha
        have hsessao : sessoes[k]? = some s.prefs.value := h.leituras.of_queue_eq hq k rfl
        have hlt : k < s.pedidos.length := h.tamanho ▸ (List.getElem?_eq_some_iff.mp hsessao).1
        simp only [responder, List.getElem?_eq_getElem hlt]
        refine ⟨by rw [List.length_set, h.tamanho], h.leituras.deliver, fun j p hp => ?_⟩
        by_cases hj : k = j
        · subst hj
          rw [List.getElem?_set_self hlt] at hp
          obtain rfl := Option.some.inj hp
          exact Or.inr ⟨_, hsessao, rfl⟩
        · rw [List.getElem?_set_ne hj] at hp
          rcases h.pedidos j p hp with ⟨hetapa, hmem⟩ | hdepois
          · rw [hreaders, List.mem_cons] at hmem
            exact Or.inl ⟨hetapa, hmem.resolve_left fun heq => hj (Option.some.inj heq).symm⟩
          · exact Or.inr hdepois

/-- A pending operation that takes effect leaves what the preferences settle on. -/
lemma settled_entregar {s' : Fila} (ha : s.step .entregar = some s') :
    s'.prefs.settled = s.prefs.settled := by
  rw [← PendingRegister.settled_deliver s.prefs]
  simp only [step] at ha
  split at ha
  · cases ha
  · obtain rfl := Option.some.inj ha
    unfold responder
    split <;> rfl
  · obtain rfl := Option.some.inj ha
    rfl

/-- A step keeps the sessions of the calls, and a new call has the session the preferences settle
on. -/
lemma Conta.step (h : s.Conta sessoes) {a : FilaPasso} {s' : Fila} (ha : s.step a = some s') :
    s'.Conta (sessoes ++
      match a with
      | .chamar _ _ _ => [s.prefs.settled]
      | _ => []) := by
  cases a with
  | chamar method url body =>
    obtain rfl := Option.some.inj ha
    exact h.chamar method url body
  | ler =>
    obtain rfl := Option.some.inj ha
    rw [List.append_nil]
    refine h.outra (h.leituras.issue_read fun k hk => by cases hk) fun who hwho => ?_
    rw [PendingRegister.readers_issue_read]
    exact List.mem_append_left _ hwho
  | sessao c =>
    obtain rfl := Option.some.inj ha
    rw [List.append_nil]
    exact h.sessao c
  | entregar =>
    rw [List.append_nil]
    exact h.entregar ha

/-- The requests of the calls do not change. -/
lemma fixo_step {a : FilaPasso} {s' : Fila} (ha : s.step a = some s') :
    s.pedidos.map ChamadaHttp.fixo <+: s'.pedidos.map ChamadaHttp.fixo := by
  have hresponder : ∀ (s : Fila) k stored,
      (s.responder k stored).pedidos.map ChamadaHttp.fixo = s.pedidos.map ChamadaHttp.fixo := by
    intro s k stored
    unfold responder
    split
    · rename_i p hp
      have hfixo : (s.pedidos.map ChamadaHttp.fixo)[k]? = some p.fixo := by
        rw [List.getElem?_map, hp, Option.map_some]
      obtain ⟨hlt, hget⟩ := List.getElem?_eq_some_iff.mp hfixo
      have hset := List.set_getElem_self hlt
      rw [hget] at hset
      rw [List.map_set]
      exact hset
    · rfl
  cases a with
  | chamar method url body =>
    obtain rfl := Option.some.inj ha
    rw [List.map_append]
    exact List.prefix_append _ _
  | ler =>
    obtain rfl := Option.some.inj ha
    exact List.prefix_rfl
  | sessao c =>
    obtain rfl := Option.some.inj ha
    exact List.prefix_rfl
  | entregar =>
    simp only [Fila.step] at ha
    split at ha
    · cases ha
    · rename_i k q hq
      obtain rfl := Option.some.inj ha
      have heq := hresponder { s with prefs := s.prefs.deliver } k s.prefs.value
      exact ⟨[], (List.append_nil _).trans heq.symm⟩
    · obtain rfl := Option.some.inj ha
      exact List.prefix_rfl

/-- In every state the calls have their sessions. -/
lemma exists_conta {value : Option String} {as : List FilaPasso} {t : Fila}
    (hrun : StepRun.run step (inicio value) as = some t) : ∃ sessoes, t.Conta sessoes :=
  StepRun.run_invariant_of_step (I := fun s : Fila => ∃ sessoes, s.Conta sessoes)
    (fun _ _ _ h ha => ⟨_, h.choose_spec.step ha⟩) ⟨[], conta_inicio value⟩ hrun

/-- A call of a wrapper stays where it was put, and comes to what the session makes of it that the
preferences settled on. -/
lemma exists_chamada {value : Option String} {antes as : List FilaPasso} {s s₁ t : Fila}
    {method : Method} {url : String} {body : Option String}
    (hantes : StepRun.run step (inicio value) antes = some s)
    (hchamar : s.step (.chamar method url body) = some s₁)
    (hrun : StepRun.run step s₁ as = some t) :
    ∃ etapa, t.pedidos[s.pedidos.length]? = some ⟨method, url, body, etapa⟩ ∧
      (etapa = .esperando ∧ some s.pedidos.length ∈ t.prefs.readers ∨
        etapa = .depois s.prefs.settled) := by
  obtain ⟨sessoes, hconta⟩ := exists_conta hantes
  have hlength := hconta.tamanho
  obtain ⟨⟨sessoes', hconta', hprefix⟩, hfixo⟩ := StepRun.run_invariant_of_step
    (I := fun t : Fila => (∃ sessoes', t.Conta sessoes' ∧
      sessoes ++ [s.prefs.settled] <+: sessoes') ∧
      s₁.pedidos.map ChamadaHttp.fixo <+: t.pedidos.map ChamadaHttp.fixo)
    (by
      rintro s a s' ⟨⟨sessoes', hconta', hprefix⟩, hfixo⟩ ha
      exact ⟨⟨_, hconta'.step ha, hprefix.trans (List.prefix_append _ _)⟩,
        hfixo.trans (fixo_step ha)⟩)
    ⟨⟨_, hconta.step hchamar, List.prefix_rfl⟩, List.prefix_rfl⟩ hrun
  obtain rfl := Option.some.inj hchamar
  -- The session and the request of the call are where they were put.
  have hsessao : sessoes'[s.pedidos.length]? = some s.prefs.settled := by
    obtain ⟨resto, rfl⟩ := hprefix
    rw [List.getElem?_append_left (by simp [hlength]), ← hlength]
    exact List.getElem?_concat_length
  have hpedido : (t.pedidos.map ChamadaHttp.fixo)[s.pedidos.length]? =
      some (method, url, body) := by
    obtain ⟨resto, hresto⟩ := hfixo
    rw [← hresto, List.getElem?_append_left (by simp), List.getElem?_map,
      List.getElem?_concat_length]
    rfl
  rw [List.getElem?_map] at hpedido
  obtain ⟨p, hp, hfixo'⟩ := Option.map_eq_some_iff.mp hpedido
  obtain ⟨method', url', body', etapa⟩ := p
  obtain ⟨rfl, hrest⟩ := Prod.mk.inj hfixo'
  obtain ⟨rfl, rfl⟩ := Prod.mk.inj hrest
  refine ⟨etapa, hp, ?_⟩
  rcases hconta'.pedidos _ _ hp with hespera | ⟨v, hv, hetapa⟩
  · exact Or.inl hespera
  · obtain rfl := Option.some.inj (hsessao.symm.trans hv)
    exact Or.inr hetapa

/-- **A request has the session of its call.**  A wrapper is called in any reachable state, and any
steps follow: the request still waits, with its read pending; or it was sent with the headers of the
session the preferences settled on when the wrapper was called; or that session had no user, and
nothing was sent. -/
theorem pedido_da_sessao {value : Option String} {antes as : List FilaPasso} {s s₁ t : Fila}
    {method : Method} {url : String} {body : Option String}
    (hantes : StepRun.run step (inicio value) antes = some s)
    (hchamar : s.step (.chamar method url body) = some s₁)
    (hrun : StepRun.run step s₁ as = some t) :
    t.pedidos[s.pedidos.length]? = some ⟨method, url, body, .esperando⟩ ∧
        some s.pedidos.length ∈ t.prefs.readers ∨
      t.pedidos[s.pedidos.length]? = some ⟨method, url, body, .depois s.prefs.settled⟩ := by
  obtain ⟨etapa, hp, ⟨rfl, hmem⟩ | rfl⟩ := exists_chamada hantes hchamar hrun
  · exact Or.inl ⟨hp, hmem⟩
  · exact Or.inr hp

/-- A wrapper is called while a user is stored, who logs out before the headers are read: the
request is sent with the token of the user, and then nobody is stored. -/
theorem pedido_da_sessao_logout :
    let stored := some "\x7b\"token\":\"t7\",\"roles\":[]\x7d"
    ∃ s₁ t, step (inicio stored) (.chamar .get "/carros/tipo/luxo" none) = some s₁ ∧
      StepRun.run step s₁ [.sessao .clear, .entregar, .entregar] = some t ∧
      Usuario.get t.prefs.value = .ok none ∧
      t.pedidos[0]? = some ⟨.get, "/carros/tipo/luxo", none,
        .enviado [("Content-Type", "application/json"), ("Authorization", "Bearer t7")]⟩ := by
  intro stored
  obtain ⟨s₁, hs₁⟩ : ∃ s₁, step (inicio stored) (.chamar .get "/carros/tipo/luxo" none) = some s₁ :=
    ⟨_, rfl⟩
  obtain ⟨t, hrun, hlida, hvalue⟩ : ∃ t,
      StepRun.run step s₁ [.sessao .clear, .entregar, .entregar] = some t ∧
        t.prefs.readers = [] ∧ t.prefs.value = some Usuario.clearText := by
    obtain rfl := Option.some.inj hs₁
    exact ⟨_, rfl, rfl, rfl⟩
  have hdepois : EtapaPedido.depois (inicio stored).prefs.settled =
      .enviado [("Content-Type", "application/json"), ("Authorization", "Bearer t7")] := by
    decide +kernel
  refine ⟨s₁, t, hs₁, hrun, by rw [hvalue, Usuario.get_clearText], ?_⟩
  rcases pedido_da_sessao (StepRun.run_nil step (inicio stored)) hs₁ hrun with ⟨-, hmem⟩ | hp
  · rw [hlida] at hmem
    cases hmem
  · rwa [hdepois] at hp

/-! ## After a logout -/

/-- Nobody is stored, so that there are no headers. -/
def SemUsuario (stored : Option String) : Prop := ∀ hs, headers stored ≠ .ok hs

/-- What comes of a request without a user is a failure. -/
lemma SemUsuario.depois {stored : Option String} (h : SemUsuario stored) :
    EtapaPedido.depois stored = .falhou := by
  unfold EtapaPedido.depois
  split
  · rename_i hs hheaders
    exact absurd hheaders (h hs)
  · rfl

/-- A cleared session has no user. -/
lemma semUsuario_clear (prefs : Prefs (Option ℕ)) :
    SemUsuario (SessionCall.clear.make prefs).settled := by
  intro hs hheaders
  obtain ⟨u, hu⟩ := (headers_ok_iff _).mp ⟨hs, hheaders⟩
  have hget := get_settled_make prefs .clear
  rw [hu] at hget
  cases Except.ok.inj hget

/-- Nobody is stored, and nobody was stored at the calls from the `n`-th on. -/
structure Deslogada (n : ℕ) (s : Fila) : Prop where
  atual : SemUsuario s.prefs.settled
  sessoes : ∃ sessoes, s.Conta sessoes ∧
    ∀ k v, n ≤ k → sessoes[k]? = some v → SemUsuario v

/-- Only a login ends this. -/
lemma Deslogada.step {n : ℕ} (h : s.Deslogada n) {a : FilaPasso} {s' : Fila}
    (ha : s.step a = some s') (hsave : ∀ u, a ≠ .sessao (.save u)) : s'.Deslogada n := by
  obtain ⟨sessoes, hconta, hsem⟩ := h.sessoes
  refine ⟨?_, _, hconta.step ha, fun k v hk hv => ?_⟩
  · cases a with
    | chamar method url body =>
      obtain rfl := Option.some.inj ha
      rw [PendingRegister.settled_issue_read]
      exact h.atual
    | ler =>
      obtain rfl := Option.some.inj ha
      rw [PendingRegister.settled_issue_read]
      exact h.atual
    | sessao c =>
      obtain rfl := Option.some.inj ha
      cases c with
      | clear => exact semUsuario_clear s.prefs
      | save u => exact absurd rfl (hsave u)
    | entregar =>
      rw [settled_entregar ha]
      exact h.atual
  · cases a with
    | chamar method url body =>
      rcases Nat.lt_or_ge k sessoes.length with hlt | hge
      · rw [List.getElem?_append_left hlt] at hv
        exact hsem k v hk hv
      · rw [List.getElem?_append_right hge] at hv
        obtain ⟨_, rfl⟩ := List.getElem?_eq_some_iff.mp hv
        rw [List.getElem_singleton]
        exact h.atual
    | ler => exact hsem k v hk (by rwa [List.append_nil] at hv)
    | sessao c => exact hsem k v hk (by rwa [List.append_nil] at hv)
    | entregar => exact hsem k v hk (by rwa [List.append_nil] at hv)

/-- **After a logout nothing is sent.**  The session is cleared in any reachable state, and any
steps follow among which nobody logs in.  No wrapper called since then has sent its request: it
waits, or it failed. -/
theorem depois_do_logout {value : Option String} {antes as : List FilaPasso} {s s₁ t : Fila}
    (hantes : StepRun.run step (inicio value) antes = some s)
    (hlogout : s.step (.sessao .clear) = some s₁) (hrun : StepRun.run step s₁ as = some t)
    (hsave : ∀ u, FilaPasso.sessao (.save u) ∉ as) {k : ℕ} {p : ChamadaHttp}
    (hk : s.pedidos.length ≤ k) (hp : t.pedidos[k]? = some p) :
    p.etapa = .esperando ∨ p.etapa = .falhou := by
  obtain ⟨sessoes, hconta⟩ := exists_conta hantes
  obtain rfl := Option.some.inj hlogout
  have h₁ : Deslogada s.pedidos.length { s with prefs := SessionCall.clear.make s.prefs } := by
    refine ⟨semUsuario_clear s.prefs, sessoes, hconta.sessao .clear, fun j v hj hv => ?_⟩
    have hlt := (List.getElem?_eq_some_iff.mp hv).1
    rw [hconta.tamanho] at hlt
    exact absurd hlt (Nat.not_lt.mpr hj)
  have hmeets : StepRun.RunMeets step (fun _ a => ∀ u, a ≠ .sessao (.save u))
      { s with prefs := SessionCall.clear.make s.prefs } as := by
    refine StepRun.runMeets_of_forall (fun a ha _ u heq => ?_) _
    exact hsave u (heq ▸ ha)
  obtain ⟨_, sessoes', hconta', hsem⟩ := StepRun.run_invariant
    (fun s a s' h hok ha => Deslogada.step h ha hok) h₁ hmeets hrun
  rcases hconta'.pedidos k p hp with ⟨hetapa, _⟩ | ⟨v, hv, hetapa⟩
  · exact Or.inl hetapa
  · exact Or.inr (hetapa.trans (hsem k v hk hv).depois)

/-- A user is stored, another one has registered, whose save is still pending, and somebody logs
out: a wrapper that is called then does not send its request, although the save takes effect
later. -/
theorem depois_do_logout_chamar :
    let stored := some "\x7b\"token\":\"t7\",\"roles\":[]\x7d"
    let ana : FirebaseUser := ⟨some "uid", some "Ana", some "ana@mail.com", none⟩
    let login : FilaPasso := .sessao (.save ⟨.ofCadastro ana, Usuario.readable_ofCadastro ana⟩)
    ∃ s s₁ t p, StepRun.run step (inicio stored) [login] = some s ∧ s.prefs.value = stored ∧
      s.step (.sessao .clear) = some s₁ ∧
      StepRun.run step s₁ [.chamar .delete "/carros/1" none, .entregar, .entregar, .entregar] =
        some t ∧
      t.pedidos[0]? = some p ∧ (p.etapa = .esperando ∨ p.etapa = .falhou) := by
  intro stored ana login
  obtain ⟨s, hs, hvalue, hpedidos⟩ : ∃ s, StepRun.run step (inicio stored) [login] = some s ∧
      s.prefs.value = stored ∧ s.pedidos = [] := ⟨_, rfl, rfl, rfl⟩
  obtain ⟨s₁, hs₁⟩ : ∃ s₁, s.step (.sessao .clear) = some s₁ := ⟨_, rfl⟩
  obtain ⟨t, p, hrun, hp⟩ : ∃ t p, StepRun.run step s₁
      [.chamar .delete "/carros/1" none, .entregar, .entregar, .entregar] = some t ∧
      t.pedidos[0]? = some p := by
    obtain rfl := Option.some.inj hs
    obtain rfl := Option.some.inj hs₁
    exact ⟨_, _, rfl, rfl⟩
  exact ⟨s, s₁, t, p, hs, hvalue, hs₁, hrun, hp,
    depois_do_logout hs hs₁ hrun (by simp) (by simp [hpedidos]) hp⟩

/-! ## The last login -/

end Fila

/-- The call of the session in a step. -/
def FilaPasso.chamada : FilaPasso → Option SessionCall
  | .sessao c => some c
  | _ => none

/-- The last call of the session in a list of steps. -/
def ultimaSessao (as : List FilaPasso) : Option SessionCall :=
  (as.filterMap FilaPasso.chamada).getLast?

/-- What becomes of a request if the session was last changed by this call: it is sent with the
token of the user, if the user has roles. -/
def EtapaPedido.de : SessionCall → EtapaPedido
  | .save u =>
    if u.val.roles = none then .falhou
    else
      .enviado [("Content-Type", "application/json"),
        ("Authorization", "Bearer " ++ u.val.token.getD "null")]
  | .clear => .falhou

namespace Fila

/-- A request fails if the session cannot be read or has no user, and otherwise it is sent with the
token of the user. -/
lemma depois_settled_make (prefs : Prefs (Option ℕ)) (c : SessionCall) :
    EtapaPedido.depois (c.make prefs).settled = .de c := by
  have hget := get_settled_make prefs c
  cases c with
  | clear => rw [EtapaPedido.depois, headers, hget]; rfl
  | save u =>
    by_cases hroles : u.val.roles = none
    · simp only [hroles, if_true] at hget
      rw [EtapaPedido.depois, headers, hget, EtapaPedido.de, if_pos hroles]
      rfl
    · simp only [hroles, if_false] at hget
      rw [EtapaPedido.depois, headers, hget, EtapaPedido.de, if_neg hroles]
      rfl

/-- After a run the preferences settle on what was stored at its start, or on what the last call of
the session made of them. -/
lemma depois_settled_run {value : Option String} {as : List FilaPasso} {t : Fila}
    (hrun : StepRun.run step (inicio value) as = some t) :
    EtapaPedido.depois t.prefs.settled = (ultimaSessao as).elim (.depois value) .de := by
  have hinicio : EtapaPedido.depois (inicio value).prefs.settled =
      (ultimaSessao []).elim (.depois value) .de := rfl
  refine StepRun.run_history (I := fun s before =>
    EtapaPedido.depois s.prefs.settled = (ultimaSessao before).elim (.depois value) .de)
    ?_ hinicio hrun
  intro s a s' before h ha
  have hlast : ultimaSessao (before ++ [a]) = a.chamada.or (ultimaSessao before) := by
    rw [ultimaSessao, List.filterMap_append, List.getLast?_append]
    cases hc : a.chamada <;> simp [hc, ultimaSessao]
  rw [hlast]
  cases a with
  | chamar method url body =>
    obtain rfl := Option.some.inj ha
    rw [PendingRegister.settled_issue_read]
    exact h
  | ler =>
    obtain rfl := Option.some.inj ha
    rw [PendingRegister.settled_issue_read]
    exact h
  | sessao c =>
    obtain rfl := Option.some.inj ha
    exact depois_settled_make s.prefs c
  | entregar =>
    rw [settled_entregar ha]
    exact h

/-- **The token of the last login.**  A wrapper is called in any reachable state, and any steps
follow.  Its request waits, or it came to what the last login or logout before the call makes of
it: it was sent with the token of the user who logged in, who has roles, and it was not sent after a
logout, nor for a user without roles, as every user of a login with Firebase is.  If there was no
login and no logout, what an earlier run of the app left stored decides. -/
theorem pedido_do_ultimo_login {value : Option String} {antes as : List FilaPasso} {s s₁ t : Fila}
    {method : Method} {url : String} {body : Option String}
    (hantes : StepRun.run step (inicio value) antes = some s)
    (hchamar : s.step (.chamar method url body) = some s₁)
    (hrun : StepRun.run step s₁ as = some t) :
    ∃ etapa, t.pedidos[s.pedidos.length]? = some ⟨method, url, body, etapa⟩ ∧
      (etapa = .esperando ∧ some s.pedidos.length ∈ t.prefs.readers ∨
        etapa = (ultimaSessao antes).elim (.depois value) .de) := by
  obtain ⟨etapa, hp, hetapa⟩ := exists_chamada hantes hchamar hrun
  refine ⟨etapa, hp, hetapa.imp_right fun h => ?_⟩
  rw [h, depois_settled_run hantes]

/-- Somebody registers, and then logs in with Firebase: a request called after that is not sent. -/
theorem pedido_do_ultimo_login_firebase :
    let ana : FirebaseUser := ⟨some "uid", some "Ana", some "ana@mail.com", none⟩
    let antes : List FilaPasso :=
      [.sessao (.save ⟨.ofCadastro ana, Usuario.readable_ofCadastro ana⟩), .entregar,
        .sessao (.save ⟨.ofFirebase ana, Usuario.readable_ofFirebase ana⟩)]
    ∃ s s₁ t etapa, StepRun.run step (inicio none) antes = some s ∧
      s.step (.chamar .get "/carros/tipo/luxo" none) = some s₁ ∧
      StepRun.run step s₁ [.entregar, .entregar] = some t ∧
      t.pedidos[s.pedidos.length]? = some ⟨.get, "/carros/tipo/luxo", none, etapa⟩ ∧
      (etapa = .esperando ∧ some s.pedidos.length ∈ t.prefs.readers ∨ etapa = .falhou) := by
  intro ana antes
  obtain ⟨s, hantes⟩ : ∃ s, StepRun.run step (inicio none) antes = some s := ⟨_, rfl⟩
  obtain ⟨s₁, hchamar⟩ : ∃ s₁, s.step (.chamar .get "/carros/tipo/luxo" none) = some s₁ := ⟨_, rfl⟩
  obtain ⟨t, hrun⟩ : ∃ t, StepRun.run step s₁ [.entregar, .entregar] = some t := by
    obtain rfl := Option.some.inj hantes
    obtain rfl := Option.some.inj hchamar
    exact ⟨_, rfl⟩
  obtain ⟨etapa, hp, hetapa⟩ := pedido_do_ultimo_login hantes hchamar hrun
  exact ⟨s, s₁, t, etapa, hantes, hchamar, hrun, hp, hetapa⟩

end Fila

end Carros
