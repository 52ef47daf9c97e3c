import Carros.Base.StepRun
import Carros.Catalogue.CarroForm
import Carros.Http.Outcomes

/-!
# A form for a new car

One `CarroFormPage` opened without a car, with everything that can happen while it is there: taps of
`Salvar`, answers of the server in any order, taps of `Ok` in the dialogs over the form, the ends of
the delays after which a call takes the progress indicator away, and the back button.

`AppButton` draws a progress indicator in place of its text and stays enabled, every tap makes a car
of its own, and the id the server gives it is not kept, so nothing but the dialogs stands between
two taps.  A dialog takes the taps until it is closed; closing the dialog of a success takes one
more route from the stack, which is the form unless another dialog came in between.

`um_carro` concludes that one form creates at most one car if nobody taps `Salvar` while a save is
pending and the server describes what it created.
-/

namespace Carros

open Dart

/-- A dialog over the form. -/
inductive Dialogo where
  | sucesso
  | erro
  deriving DecidableEq, Repr

/-- How far a tap of `Salvar` has come. -/
inductive Salvamento where
  /-- `CarrosApi.save` has not returned yet. -/
  | salvando (form : Formulario)
  /-- The outcome was shown, and the delay runs. -/
  | espera
  | fim

/-- The call waits for the server. -/
def Salvamento.pendente : Salvamento → Bool
  | .salvando _ => true
  | _ => false

/-- The form, the dialogs over it with the top one first, the calls of `_onClickSalvar` in the order
of the taps, and the records the server created for them. -/
structure FormNovo where
  aberto : Bool
  dialogos : List Dialogo
  showProgress : Bool
  chamadas : List Salvamento
  criados : List Registro

/-- What can happen. -/
inductive FormPasso where
  /-- `Salvar` is tapped, with this in the form. -/
  | salvar (form : Formulario)
  /-- The request of call `k` comes back, and `CarrosApi.save` returns. -/
  | resposta (k : ℕ) (stored : Option String) (answer : Except DartError Response)
  /-- The delay of call `k` is over. -/
  | espera (k : ℕ)
  /-- `Ok` is tapped in the top dialog. -/
  | ok
  /-- The back button closes the form. -/
  | voltar

/-- A server that creates a record exactly when it answers a post with 200 or 201. -/
def criando (answer : Except DartError Response) : Transport (List Registro) := fun req criados =>
  (answer,
    match answer with
    | .error _ => criados
    | .ok r =>
      if req.method = .post ∧ (r.statusCode = 200 ∨ r.statusCode = 201) then
        criados ++ (req.body.bind Registro.ofBody).toList
      else criados)

namespace FormNovo

/-- The form when it was opened. -/
def inicio : FormNovo := ⟨true, [], false, [], []⟩

/-- `alert` puts a dialog over the form; it needs the form to be there. -/
def alertar (s : FormNovo) (d : Dialogo) : FormNovo :=
  if s.aberto then { s with dialogos := d :: s.dialogos } else s

/-- One step. -/
def step (s : FormNovo) : FormPasso → Option FormNovo
  | .salvar form =>
    if s.aberto = true ∧ s.dialogos = [] then
      if (CarroFormPage.validateNome form.nome).isSome then some s
      else some { s with showProgress := true, chamadas := s.chamadas ++ [.salvando form] }
    else none
  | .resposta k stored answer =>
    match s.chamadas[k]? with
    | some (.salvando form) =>
      match CarroFormPage.onClickSalvar (criando answer) stored none form s.criados with
      | none => none
      | some saida =>
        -- Without the form there is no context for the dialog, and the call ends there.
        some ({ s with
          chamadas := s.chamadas.set k (if s.aberto then .espera else .fim)
          criados := saida.world }.alertar (if saida.response.ok then .sucesso else .erro))
    | _ => none
  | .espera k =>
    match s.chamadas[k]? with
    | some .espera =>
      some { s with
        showProgress := if s.aberto then false else s.showProgress
        chamadas := s.chamadas.set k .fim }
    | _ => none
  | .ok =>
    match s.dialogos with
    | [] => none
    | .erro :: dialogos => some { s with dialogos }
    | [.sucesso] => some { s with aberto := false, dialogos := [] }
    | .sucesso :: _ :: dialogos => some { s with dialogos }
  | .voltar => if s.aberto = true ∧ s.dialogos = [] then some { s with aberto := false } else none

/-- How many calls wait for the server. -/
def pendentes (s : FormNovo) : ℕ := s.chamadas.countP Salvamento.pendente

/-- `Salvar` is tapped only when no save is pending, and the server describes the car it created. -/
def Cuidadoso (s : FormNovo) : FormPasso → Prop
  | .salvar _ => s.pendentes = 0
  | .resposta _ _ answer => SalvoDescrito answer
  | _ => True

/-- Either nothing was created, at most one save is pending, and none under a dialog; or one record
was created, no save is pending, and the form is gone or about to go with the dialog of the
success. -/
def Inv (s : FormNovo) : Prop :=
  (s.criados = [] ∧ s.pendentes ≤ 1 ∧ (s.dialogos ≠ [] → s.pendentes = 0)) ∨
    (s.criados.length = 1 ∧ s.pendentes = 0 ∧ (s.aberto = false ∨ s.dialogos = [.sucesso]))

/-! ## One step -/

/-- A save of a new car creates nothing, or one record; if the server describes the record, the save
of it is a success. -/
lemma world_onClickSalvar {stored : Option String} {answer : Except DartError Response}
    {form : Formulario} {criados : List Registro}
    {saida : CarroFormPage.Saida (List Registro)}
    (h : CarroFormPage.onClickSalvar (criando answer) stored none form criados = some saida) :
    saida.world = criados ∨
      saida.world.length = criados.length + 1 ∧
        (SalvoDescrito answer → saida.response.ok = true) := by
  unfold CarroFormPage.onClickSalvar at h
  split at h
  · cases h
  obtain rfl := Option.some.inj h
  dsimp only
  cases hheaders : headers stored with
  | error e => exact Or.inl rfl
  | ok hs =>
    have hpost : CarrosApi.saveMethod
        (CarrosApi.enviarFoto stored (CarroFormPage.preencher none form) form.file) = .post := by
      rw [CarrosApi.saveMethod, CarrosApi.id_enviarFoto]
      rfl
    cases answer with
    | error e =>
      left
      simp only [request, hheaders, criando]
    | ok r =>
      by_cases hsalvou : CarrosApi.salvou r.statusCode
      · right
        have hpair : CarrosApi.saveMethod (CarrosApi.enviarFoto stored
            (CarroFormPage.preencher none form) form.file) = .post ∧
              (r.statusCode = 200 ∨ r.statusCode = 201) := ⟨hpost, hsalvou⟩
        simp only [request, hheaders, criando, if_pos hpair]
        refine ⟨by simp, fun hdescrito => ?_⟩
        exact (CarrosApi.orFailure_saveAnswer_of_salvou hsalvou).1.mpr
          (hdescrito r rfl hsalvou)
      · left
        have hpair : ¬ (CarrosApi.saveMethod (CarrosApi.enviarFoto stored
            (CarroFormPage.preencher none form) form.file) = .post ∧
              (r.statusCode = 200 ∨ r.statusCode = 201)) := fun hpair => hsalvou hpair.2
        simp only [request, hheaders, criando, if_neg hpair]

/-- A call that waits is counted. -/
lemma pendentes_pos {s : FormNovo} {k : ℕ} {form : Formulario}
    (h : s.chamadas[k]? = some (.salvando form)) : 0 < s.pendentes :=
  List.countP_pos_iff.mpr ⟨_, List.mem_of_getElem? h, rfl⟩

/-- A call that goes on is not counted any more. -/
lemma countP_set_of_salvando {chamadas : List Salvamento} {k : ℕ} {form : Formulario}
    (h : chamadas[k]? = some (.salvando form)) {depois : Salvamento}
    (hdepois : depois.pendente = false) :
    (chamadas.set k depois).countP Salvamento.pendente =
      chamadas.countP Salvamento.pendente - 1 := by
  obtain ⟨hlt, hget⟩ := List.getElem?_eq_some_iff.mp h
  rw [List.countP_set hlt, hget, hdepois]
  rfl

/-- The end of a delay does not change how many calls are counted. -/
lemma countP_set_of_espera {chamadas : List Salvamento} {k : ℕ}
    (h : chamadas[k]? = some .espera) :
    (chamadas.set k .fim).countP Salvamento.pendente =
      chamadas.countP Salvamento.pendente := by
  obtain ⟨hlt, hget⟩ := List.getElem?_eq_some_iff.mp h
  rw [List.countP_set hlt, hget]
  rfl

/-- A dialog does not change the calls. -/
@[simp] lemma chamadas_alertar (s : FormNovo) (d : Dialogo) :
    (s.alertar d).chamadas = s.chamadas := by
  unfold alertar
  split_ifs <;> rfl

/-- A dialog does not change the records. -/
@[simp] lemma criados_alertar (s : FormNovo) (d : Dialogo) :
    (s.alertar d).criados = s.criados := by
  unfold alertar
  split_ifs <;> rfl

/-- The answer to the one pending save. -/
lemma Inv.resposta {s : FormNovo} (hs : s.Inv) {k : ℕ} {form : Formulario}
    (hk : s.chamadas[k]? = some (.salvando form)) {stored : Option String}
    {answer : Except DartError Response} (hdescrito : SalvoDescrito answer)
    {saida : CarroFormPage.Saida (List Registro)}
    (hsaida :
      CarroFormPage.onClickSalvar (criando answer) stored none form s.criados = some saida) :
    Inv ({ s with
      chamadas := s.chamadas.set k (if s.aberto then .espera else .fim)
      criados := saida.world }.alertar (if saida.response.ok then .sucesso else .erro)) := by
  have hpos := pendentes_pos hk
  rcases hs with ⟨hcriados, hone, hdialogos⟩ | ⟨-, hzero, -⟩
  swap
  · omega
  have hsem : s.dialogos = [] := by
    by_contra hne
    have := hdialogos hne
    omega
  have hset : (s.chamadas.set k (if s.aberto then .espera else .fim)).countP
      Salvamento.pendente = 0 := by
    have hdepois : (if s.aberto = true then Salvamento.espera else Salvamento.fim).pendente =
        false := by split_ifs <;> rfl
    rw [countP_set_of_salvando hk hdepois]
    have hcount : s.chamadas.countP Salvamento.pendente ≤ 1 := hone
    omega
  rcases world_onClickSalvar hsaida with hworld | ⟨hworld, hok⟩
  · left
    refine ⟨?_, ?_, fun _ => ?_⟩
    · rw [criados_alertar]
      exact hworld.trans hcriados
    · rw [pendentes, chamadas_alertar, hset]
      exact Nat.zero_le 1
    · rw [pendentes, chamadas_alertar, hset]
  · right
    refine ⟨?_, ?_, ?_⟩
    · rw [criados_alertar, hworld, hcriados]
      rfl
    · rw [pendentes, chamadas_alertar, hset]
    · cases haberto : s.aberto with
      | false => exact Or.inl (by simp [alertar])
      | true => exact Or.inr (by simp [alertar, hok hdescrito, hsem])

/-- Closing a dialog keeps the invariant, unless it is the dialog of the success over the form. -/
lemma Inv.fechar {s : FormNovo} (hs : s.Inv) (hne : s.dialogos ≠ [])
    (hsucesso : s.dialogos ≠ [.sucesso]) (dialogos : List Dialogo) :
    Inv { s with dialogos } := by
  rcases hs with ⟨hcriados, hone, hzero⟩ | ⟨hum, hzero, hfechado | hdialogo⟩
  · exact Or.inl ⟨hcriados, hone, fun _ => hzero hne⟩
  · exact Or.inr ⟨hum, hzero, Or.inl hfechado⟩
  · exact absurd hdialogo hsucesso

/-- A careful step keeps the invariant. -/
lemma Inv.step {s s' : FormNovo} (hs : s.Inv) {p : FormPasso} (hp : s.Cuidadoso p)
    (h : FormNovo.step s p = some s') : s'.Inv := by
  cases p with
  | salvar form =>
    simp only [FormNovo.step] at h
    split at h
    swap
    · cases h
    rename_i haberto
    split at h
    · obtain rfl := Option.some.inj h
      exact hs
    · obtain rfl := Option.some.inj h
      have hzero : s.pendentes = 0 := hp
      rcases hs with ⟨hcriados, -, -⟩ | ⟨-, -, hfechado | hdialogo⟩
      · refine Or.inl ⟨hcriados, ?_, fun hne => absurd haberto.2 hne⟩
        have hcount : s.chamadas.countP Salvamento.pendente = 0 := hzero
        simp [pendentes, List.countP_append, hcount, Salvamento.pendente]
      · rw [haberto.1] at hfechado
        cases hfechado
      · rw [haberto.2] at hdialogo
        cases hdialogo
  | resposta k stored answer =>
    simp only [FormNovo.step] at h
    split at h
    swap
    · cases h
    rename_i form hk
    split at h
    · cases h
    · rename_i saida hsaida
      obtain rfl := Option.some.inj h
      exact hs.resposta hk hp hsaida
  | espera k =>
    simp only [FormNovo.step] at h
    split at h
    swap
    · cases h
    rename_i hk
    obtain rfl := Option.some.inj h
    have hset := countP_set_of_espera hk
    simpa only [Inv, pendentes, hset] using hs
  | ok =>
    simp only [FormNovo.step] at h
    split at h
    · cases h
    · rename_i dialogos hdialogos
      obtain rfl := Option.some.inj h
      exact hs.fechar (by simp [hdialogos]) (by simp [hdialogos]) dialogos
    · rename_i hdialogos
      obtain rfl := Option.some.inj h
      rcases hs with ⟨hcriados, hone, -⟩ | ⟨hum, hzero, -⟩
      · exact Or.inl ⟨hcriados, hone, fun hne => absurd rfl hne⟩
      · exact Or.inr ⟨hum, hzero, Or.inl rfl⟩
    · rename_i d dialogos hdialogos
      obtain rfl := Option.some.inj h
      exact hs.fechar (by simp [hdialogos]) (by simp [hdialogos]) dialogos
  | voltar =>
    simp only [FormNovo.step] at h
    split at h
    · obtain rfl := Option.some.inj h
      rcases hs with hs | ⟨hum, hzero, -⟩
      · exact Or.inl hs
      · exact Or.inr ⟨hum, hzero, Or.inl rfl⟩
    · cases h

/-- The invariant holds when the form is opened. -/
lemma inv_inicio : inicio.Inv := Or.inl ⟨rfl, Nat.zero_le 1, fun _ => rfl⟩

end FormNovo

/-- **One form, one car.**  If `Salvar` is tapped only when no save is pending, and the server
describes every car it creates, then no run of the form creates more than one car. -/
theorem um_carro (passos : List FormPasso) (s : FormNovo)
    (hok : StepRun.RunMeets FormNovo.step FormNovo.Cuidadoso FormNovo.inicio passos)
    (hrun : StepRun.run FormNovo.step FormNovo.inicio passos = some s) : s.criados.length ≤ 1 := by
  have hinv : s.Inv := StepRun.run_invariant (fun _ _ _ hI hp h => FormNovo.Inv.step hI hp h)
    FormNovo.inv_inicio hok hrun
  rcases hinv with ⟨hcriados, -, -⟩ | ⟨hum, -, -⟩
  · rw [hcriados]
    exact Nat.zero_le 1
  · exact Nat.le_of_eq hum

/-- The answer of a server that created a car and describes it. -/
def criado (c : Carro) : Except DartError Response := .ok ⟨201, c.toJson⟩

/-- Such an answer describes the car. -/
lemma salvoDescrito_criado (c : CarroApp) : SalvoDescrito (criado c) := by
  intro r hr _
  obtain rfl := Except.ok.inj hr
  exact ⟨c.val.toMap, c, Carro.jsonDecode_toJson c.property, Carro.fromMap_toMap c.val⟩

/-- A tap whose save the server refuses, and a second tap, answered with the car it creates. -/
theorem um_carro_salvar :
    let stored := some "\x7b\"roles\":[]\x7d"
    let recusado : List FormPasso :=
      [.salvar ⟨"Fusca", "1968", 0, none⟩,
        .resposta 0 stored (.ok ⟨500, "\x7b\"error\":\"erro\"\x7d"⟩), .ok]
    let aceito : List FormPasso :=
      [.salvar ⟨"Fusca", "1969", 0, none⟩,
        .resposta 1 stored (criado { id := some 1, nome := some "Fusca" }), .espera 0, .ok]
    ∃ s, StepRun.run FormNovo.step FormNovo.inicio (recusado ++ aceito) = some s ∧
      s.aberto = false ∧ s.criados ≠ [] ∧ s.criados.length ≤ 1 := by
  intro stored recusado aceito
  have herro : SalvoDescrito (.ok ⟨500, "\x7b\"error\":\"erro\"\x7d"⟩) := by
    intro r hr hstatus
    obtain rfl := Except.ok.inj hr
    exact absurd hstatus (by unfold CarrosApi.salvou; decide)
  have hsalvo : SalvoDescrito (criado { id := some 1, nome := some "Fusca" }) :=
    salvoDescrito_criado ⟨_, by decide⟩
  -- The refused save is over when `Salvar` is tapped again.
  have hpendentes : (StepRun.run FormNovo.step FormNovo.inicio recusado).map FormNovo.pendentes =
      some 0 := by decide +kernel
  have hok : StepRun.RunMeets FormNovo.step FormNovo.Cuidadoso FormNovo.inicio
      (recusado ++ aceito) := by
    refine StepRun.RunMeets.append ⟨rfl, fun _ _ => ⟨herro, fun _ _ => ⟨trivial, fun _ _ =>
      trivial⟩⟩⟩ fun t ht => ?_
    rw [ht] at hpendentes
    exact ⟨Option.some.inj hpendentes, fun _ _ => ⟨hsalvo, fun _ _ => ⟨trivial, fun _ _ =>
      ⟨trivial, fun _ _ => trivial⟩⟩⟩⟩
  have hmap : (StepRun.run FormNovo.step FormNovo.inicio (recusado ++ aceito)).map
      (fun s => (s.aberto, decide (s.criados ≠ []))) = some (false, true) := by decide +kernel
  obtain ⟨s, hrun, hpair⟩ := Option.map_eq_some_iff.mp hmap
  obtain ⟨haberto, hcriados⟩ := Prod.mk.inj hpair
  exact ⟨s, hrun, haberto, of_decide_eq_true hcriados, um_carro _ s hok hrun⟩

/-- Two records for one form: two taps before the first answer, both answered with a car that was
created; and a second tap after a car was created and answered without a body, which was reported as
an error. -/
theorem um_carro_dois_toques_fails :
    let form : Formulario := ⟨"Fusca", "1968", 0, none⟩
    let stored := some "\x7b\"roles\":[]\x7d"
    let juntos : List FormPasso :=
      [.salvar form, .salvar form, .resposta 0 stored (criado { id := some 1 }),
        .resposta 1 stored (criado { id := some 2 })]
    let semCorpo : List FormPasso :=
      [.salvar form, .resposta 0 stored (.ok ⟨201, ""⟩), .ok, .salvar form,
        .resposta 1 stored (criado { id := some 2 })]
    ∀ passos ∈ [juntos, semCorpo],
      ∃ s, StepRun.run FormNovo.step FormNovo.inicio passos = some s ∧ s.aberto = true ∧
        s.criados.length = 2 := by
  intro form stored juntos semCorpo passos hpassos
  have hmap : (StepRun.run FormNovo.step FormNovo.inicio passos).map
      (fun s => (s.aberto, s.criados.length)) = some (true, 2) := by
    rcases List.mem_pair.mp hpassos with rfl | rfl
    · decide +kernel
    · decide +kernel
  obtain ⟨s, hrun, hpair⟩ := Option.map_eq_some_iff.mp hmap
  obtain ⟨haberto, hlength⟩ := Prod.mk.inj hpair
  exact ⟨s, hrun, haberto, hlength⟩

end Carros
