import Carros.Running.Invariant
import Mathlib.Data.List.Induction

/-!
# The last tap wins

A form writes into the object it was opened with, and so do all other forms opened with it.
`CarrosApi.save` reads the object only when its photo is uploaded and its session is read, so what a
tap of `Salvar` sends is not what was in the form when it was tapped, but what the last tap on the
object wrote before the body was built.

An object is written by taps of `Salvar` and by uploads only: `Execucao.objeto_run` replays them,
and `replay_eq` says that the last of each kind decides.  An upload writes if it is reported as ok,
which is so for some that the server refused: if the answer is a JSON object without a url, the
upload writes `null`.  `Execucao.ultimo_toque` concludes what the request of a tap carries.
-/

namespace Carros

open Dart

namespace PassoExecucao

/-- What the step makes of the car at an address. -/
def edita (o : ℕ) : PassoExecucao → Carro → Carro
  | .salvar (some o') form, c =>
    if o' = o ∧ ¬ (CarroFormPage.validateNome form.nome).isSome then
      CarroFormPage.preencher (some c) form
    else c
  | .uploadFeito o' foto stored, c =>
    if o' = o then CarrosApi.enviarFoto stored c (some foto) else c
  | _, c => c

/-- The form whose fields the step writes into the car at an address. -/
def form (o : ℕ) : PassoExecucao → Option Formulario
  | .salvar (some o') form =>
    if o' = o ∧ ¬ (CarroFormPage.validateNome form.nome).isSome then some form else none
  | _ => none

/-- The `urlFoto` the step writes into the car at an address: what an upload reported as ok comes
back with, `null` if its answer has no url. -/
def urlFoto (o : ℕ) : PassoExecucao → Option (Option String)
  | .uploadFeito o' foto stored =>
    if o' = o ∧ (UploadApi.upload stored foto).ok = true then
      some (UploadApi.upload stored foto).result
    else none
  | _ => none

end PassoExecucao

/-- The last form written into the car at an address. -/
def ultimoForm (o : ℕ) (as : List PassoExecucao) : Option Formulario :=
  (as.filterMap (PassoExecucao.form o)).getLast?

/-- The last `urlFoto` written into the car at an address. -/
def ultimaFoto (o : ℕ) (as : List PassoExecucao) : Option (Option String) :=
  (as.filterMap (PassoExecucao.urlFoto o)).getLast?

/-- The car with the fields of a form, if there is one, and with a `urlFoto`, if there is one. -/
def Carro.comEdicoes (c : Carro) (form : Option Formulario) (urlFoto : Option (Option String)) :
    Carro :=
  { form.elim c (fun form => CarroFormPage.preencher (some c) form) with
    urlFoto := urlFoto.getD c.urlFoto }

/-- Replaying the steps on the car at an address. -/
def replay (o : ℕ) (as : List PassoExecucao) (c : Carro) : Carro :=
  as.foldl (fun c a => a.edita o c) c

/-! ## Replaying -/

/-- A step writes the fields of its form, or its `urlFoto`, over what was written before. -/
lemma edita_comEdicoes (o : ℕ) (a : PassoExecucao) (c : Carro) (form : Option Formulario)
    (urlFoto : Option (Option String)) :
    a.edita o (c.comEdicoes form urlFoto) =
      c.comEdicoes ((a.form o).or form) ((a.urlFoto o).or urlFoto) := by
  cases a with
  | salvar o' form' =>
    cases o' with
    | none => rfl
    | some o' =>
      by_cases hform : o' = o ∧ ¬ (CarroFormPage.validateNome form'.nome).isSome
      · simp only [PassoExecucao.edita, PassoExecucao.form, PassoExecucao.urlFoto, if_pos hform]
        cases form <;> rfl
      · simp only [PassoExecucao.edita, PassoExecucao.form, PassoExecucao.urlFoto, if_neg hform]
        rfl
  | uploadFeito o' foto stored =>
    by_cases ho : o' = o
    · by_cases hok : (UploadApi.upload stored foto).ok = true
      · simp only [PassoExecucao.edita, PassoExecucao.form, PassoExecucao.urlFoto, ho, hok,
          CarrosApi.enviarFoto, and_self, if_true]
        cases form <;> rfl
      · simp only [PassoExecucao.edita, PassoExecucao.form, PassoExecucao.urlFoto, ho, hok,
          CarrosApi.enviarFoto, if_true]
        rfl
    · simp only [PassoExecucao.edita, PassoExecucao.form, PassoExecucao.urlFoto, ho, false_and,
        if_false]
      rfl
  | _ => rfl

/-- **The last form and the last upload reported as ok decide.** -/
theorem replay_eq (o : ℕ) (as : List PassoExecucao) (c : Carro) :
    replay o as c = c.comEdicoes (ultimoForm o as) (ultimaFoto o as) := by
  induction as using List.reverseRecOn with
  | nil => rfl
  | append_singleton as a ih =>
    have hform : ultimoForm o (as ++ [a]) = (a.form o).or (ultimoForm o as) := by
      rw [ultimoForm, List.filterMap_append, List.getLast?_append]
      cases hf : a.form o <;> simp [hf, ultimoForm]
    have hfoto : ultimaFoto o (as ++ [a]) = (a.urlFoto o).or (ultimaFoto o as) := by
      rw [ultimaFoto, List.filterMap_append, List.getLast?_append]
      cases hf : a.urlFoto o <;> simp [hf, ultimaFoto]
    have hreplay : replay o (as ++ [a]) c = a.edita o (replay o as c) := by
      rw [replay, List.foldl_append]
      rfl
    rw [hreplay, ih, edita_comEdicoes, hform, hfoto]

namespace Execucao

variable {s t : Execucao} {o : ℕ} {c : Carro}

/-- A step that does not restart the app edits the car at an address. -/
lemma objeto_step {s' : Execucao} {a : PassoExecucao} (ha : s.step a = some s')
    (hvivo : a ≠ .reiniciar) (ho : s.objetos[o]? = some c) :
    s'.objetos[o]? = some (a.edita o c) := by
  have hmais : ∀ cs : List Carro, (s.objetos ++ cs)[o]? = some c := fun cs =>
    (List.getElem?_append_left (List.getElem?_eq_some_iff.mp ho).1).trans ho
  cases efeito_of_step ha with
  | tab => exact hmais _
  | busca => exact hmais _
  | offline => exact hmais _
  | favoritosLocais => exact hmais _
  | favoritos => exact hmais _
  | novo hform => exact hmais _
  | @invalido o' form hform =>
    cases o' with
    | none => exact ho
    | some o' =>
      rw [PassoExecucao.edita, if_neg fun h => h.2 hform]
      exact ho
  | @edita o' form d hform ho' =>
    rw [PassoExecucao.edita]
    by_cases h : o' = o
    · subst h
      obtain rfl := Option.some.inj (ho.symm.trans ho')
      rw [if_pos ⟨rfl, hform⟩]
      exact List.getElem?_set_self (List.getElem?_eq_some_iff.mp ho).1
    · rw [if_neg fun h' => h h'.1]
      exact (List.getElem?_set_ne h).trans ho
  | @uploadFeito o' foto stored d hp ho' =>
    rw [PassoExecucao.edita]
    by_cases h : o' = o
    · subst h
      obtain rfl := Option.some.inj (ho.symm.trans ho')
      rw [if_pos rfl]
      exact List.getElem?_set_self (List.getElem?_eq_some_iff.mp ho).1
    · rw [if_neg h]
      exact (List.getElem?_set_ne h).trans ho
  | reiniciar => exact absurd rfl hvivo
  | _ => exact ho

/-- As long as the app is not restarted, the car at an address is what the steps make of it. -/
theorem objeto_run {as : List PassoExecucao} (hrun : StepRun.run step s as = some t)
    (hvivo : .reiniciar ∉ as) (ho : s.objetos[o]? = some c) :
    t.objetos[o]? = some (replay o as c) := by
  induction as generalizing s c with
  | nil =>
    obtain rfl : s = t := by simpa using hrun
    exact ho
  | cons a as ih =>
    obtain ⟨s', ha, hrest⟩ := StepRun.run_cons_eq_some.mp hrun
    rw [List.mem_cons, not_or] at hvivo
    exact ih hrest hvivo.2 (objeto_step ha (Ne.symm hvivo.1) ho)

/-- **The last tap wins.**  `Salvar` is tapped in a form of a car, any number of other steps happen,
and then the save of the car reads its session: what it is going to post is the car with the fields
of the last valid form tapped since, and with the `urlFoto` of the last upload since that was
reported as ok, which is `null` if its answer had no url. -/
theorem ultimo_toque {cat : Catalogo} {col : Colecao} {antes as : List PassoExecucao}
    {s₁ t' : Execucao} {form : Formulario} {stored : Option String} {hs : List (String × String)}
    (hantes : StepRun.run step (inicio cat col) antes = some s) (ho : s.objetos[o]? = some c)
    (hform : ¬ (CarroFormPage.validateNome form.nome).isSome = true)
    (htoque : s.step (.salvar (some o) form) = some s₁)
    (hrun : StepRun.run step s₁ as = some t) (hvivo : .reiniciar ∉ as)
    (hh : headers stored = .ok hs) (hlido : t.step (.salvarLido o stored) = some t') :
    t' = (t.encerrar (.salvar o)).chamar (.pedido .post urlCarros (some
      (c.comEdicoes (some ((ultimoForm o as).getD form)) (ultimaFoto o as)).toJson)) := by
  have ho₁ : s₁.objetos[o]? = some (c.comEdicoes (some form) none) := by
    have hedita := objeto_step htoque (by simp) ho
    rwa [PassoExecucao.edita, if_pos ⟨rfl, hform⟩] at hedita
  have hot : t.objetos[o]? =
      some (c.comEdicoes (some ((ultimoForm o as).getD form)) (ultimaFoto o as)) := by
    rw [objeto_run hrun hvivo ho₁, replay_eq]
    cases ultimoForm o as <;> rfl
  have hid : c.id = none := ((inv_run hantes).objetos c (List.mem_of_getElem? ho)).id
  cases efeito_of_step hlido with
  | salvarFalha hp hh' =>
    rw [hh] at hh'
    cases hh'
  | @salvarLido _ _ _ d hp hh' hod =>
    obtain rfl := Option.some.inj (hot.symm.trans hod)
    have hid' : (c.comEdicoes (some ((ultimoForm o as).getD form)) (ultimaFoto o as)).id = none :=
      hid
    rw [CarrosApi.saveMethod, CarrosApi.saveUrl, if_pos hid', if_pos hid']

/-- Two taps on one car before the session is read: the first request carries what the second form
had in it. -/
theorem ultimo_toque_dois :
    let primeiro : Formulario := ⟨"Fusca", "azul", 0, none⟩
    let segundo : Formulario := ⟨"Fusca", "verde", 0, none⟩
    ∃ t t', StepRun.run step (inicio ∅ ∅)
        [.salvar none ⟨"Gol", "", 2, none⟩, .salvar (some 0) primeiro, .salvar (some 0) segundo] =
          some t ∧
      t.step (.salvarLido 0 (some "\x7b\"roles\":[]\x7d")) = some t' ∧
      t' = (t.encerrar (.salvar 0)).chamar
        (.pedido .post urlCarros (some (CarroFormPage.preencher none segundo).toJson)) := by
  intro primeiro segundo
  obtain ⟨hs, hh⟩ := exists_headers_semRoles
  let gol : Formulario := ⟨"Gol", "", 2, none⟩
  let s : Execucao := ((inicio ∅ ∅).alocar (.ok [CarroFormPage.preencher none gol])).chamar
    (.salvar 0)
  have hantes : StepRun.run step (inicio ∅ ∅) [.salvar none gol] = some s := rfl
  obtain ⟨s₁, htoque⟩ : ∃ s₁, s.step (.salvar (some 0) primeiro) = some s₁ := ⟨_, rfl⟩
  obtain ⟨t, hrun⟩ : ∃ t, StepRun.run step s₁ [.salvar (some 0) segundo] = some t := by
    obtain rfl := Option.some.inj htoque
    exact ⟨_, rfl⟩
  have ho : s.objetos[0]? = some (CarroFormPage.preencher none gol) := rfl
  have hform : ¬ (CarroFormPage.validateNome primeiro.nome).isSome = true := by decide
  obtain ⟨t', hlido⟩ : ∃ t', t.step (.salvarLido 0 (some "\x7b\"roles\":[]\x7d")) = some t' := by
    obtain rfl := Option.some.inj htoque
    obtain rfl := Option.some.inj hrun
    exact Option.isSome_iff_exists.mp (by simp [step, hh]; rfl)
  have hcarro : (CarroFormPage.preencher none gol).comEdicoes
      (some ((ultimoForm 0 [.salvar (some 0) segundo]).getD primeiro))
      (ultimaFoto 0 [.salvar (some 0) segundo]) = CarroFormPage.preencher none segundo := rfl
  refine ⟨t, t', ?_, hlido, ?_⟩
  · have hstep : step (inicio ∅ ∅) (.salvar none gol) = some s := rfl
    rw [StepRun.run_cons_of_step hstep, StepRun.run_cons_of_step htoque, hrun]
  · rw [← hcarro]
    exact ultimo_toque hantes ho hform htoque hrun (by simp) hh hlido

end Execucao

end Carros
