import Carros.Running.Outcome

/-!
# The app comes to rest

A tap starts a call, the call goes on from await to await, what it sends is handled, and then there
is nothing left of it.  Here the steps that carry on what was begun are told apart from those that
begin something (`PassoExecucao.continua`), and the latter get a price, the number of steps they can
still lead to (`PassoExecucao.custo`).  A tap of `Salvar` with a photo is the dearest: the upload
returns, the session is read, the request is sent, the server handles it.

No call waits for something that cannot come: `Execucao.isSome_step_iff` says that it goes on
whatever it gets, because the object it refers to is there.  `Execucao.repousa` puts both together.
-/

namespace Carros

open Dart Sql

/-- How many steps a call that waits has ahead of it, with the request or the write it makes. -/
def Pendente.peso : Pendente → ℕ
  | .upload _ _ => 4
  | .salvar _ => 3
  | .deletar _ => 3
  | .pedido _ _ _ => 2
  | .favoritar _ _ => 2

/-- The object a call that waits is going to read. -/
def Pendente.endereco : Pendente → Option ℕ
  | .upload o _ => some o
  | .salvar o => some o
  | .deletar o => some o
  | .pedido _ _ _ => none
  | .favoritar o _ => some o

namespace PassoExecucao

/-- A label that carries on what was begun. -/
def continua : PassoExecucao → Bool
  | .uploadFeito _ _ _ => true
  | .salvarLido _ _ => true
  | .deletarLido _ _ => true
  | .enviar _ _ _ _ => true
  | .atender _ _ _ => true
  | .favoritarLido _ _ _ => true
  | .escrever => true
  | .inserir _ => true
  | _ => false

/-- How many steps a label that begins something can lead to. -/
def custo : PassoExecucao → ℕ
  | .tab answer => ((Execucao.carrosDe answer).toOption.getD []).length
  | .salvar _ form =>
    if (CarroFormPage.validateNome form.nome).isSome then 0
    else if form.file.isSome then 4 else 3
  | .deletar _ => 3
  | .favoritar _ => 2
  | _ => 0

end PassoExecucao

namespace Execucao

/-- How many steps are ahead. -/
def peso (s : Execucao) : ℕ :=
  StepRun.total Pendente.peso s.pendentes + s.rede.length + s.escritas.length +
    s.insercoes.length

/-- What the label carries on is there. -/
def Espera (s : Execucao) : PassoExecucao → Prop
  | .uploadFeito o foto _ => .upload o foto ∈ s.pendentes
  | .salvarLido o _ => .salvar o ∈ s.pendentes
  | .deletarLido o _ => .deletar o ∈ s.pendentes
  | .enviar method url body _ => .pedido method url body ∈ s.pendentes
  | .atender req _ novo => req ∈ s.rede ∧ novo ∉ s.catalogo
  | .favoritarLido o document _ => .favoritar o document ∈ s.pendentes
  | .escrever => s.escritas ≠ []
  | .inserir _ => s.insercoes ≠ []
  | _ => False

/-- Nothing is left to carry on. -/
structure EmRepouso (s : Execucao) : Prop where
  pendentes : s.pendentes = []
  rede : s.rede = []
  escritas : s.escritas = []
  insercoes : s.insercoes = []

/-- Every call that waits refers to an object. -/
def Enderecado (s : Execucao) : Prop :=
  ∀ p ∈ s.pendentes, ∀ o, p.endereco = some o → o < s.objetos.length

variable {s s' : Execucao} {a : PassoExecucao}

/-! ## Addresses -/

/-- New objects do not take old ones away. -/
lemma Enderecado.alocar (h : s.Enderecado) (carros : Except DartError (List Carro)) :
    (s.alocar carros).Enderecado := by
  intro p hp o ho
  have hlt := h p hp o ho
  simp only [Execucao.alocar, List.length_append]
  omega

/-- Writing an object leaves it where it is. -/
lemma Enderecado.gravar (h : s.Enderecado) (o : ℕ) (c : Carro) : (s.gravar o c).Enderecado := by
  intro p hp o' ho'
  rw [Execucao.gravar, List.length_set]
  exact h p hp o' ho'

/-- A call may start to wait that refers to an object. -/
lemma Enderecado.chamar (h : s.Enderecado) {p : Pendente}
    (hp : ∀ o, p.endereco = some o → o < s.objetos.length) : (s.chamar p).Enderecado :=
  List.forall_mem_append.mpr ⟨h, List.forall_mem_singleton.mpr hp⟩

/-- A call may end. -/
lemma Enderecado.encerrar (h : s.Enderecado) (p : Pendente) : (s.encerrar p).Enderecado :=
  fun q hq => h q (List.mem_of_mem_erase hq)

/-- A save refers to its object. -/
lemma endereco_salvamento (o : ℕ) (file : Option Foto) :
    (salvamento o file).endereco = some o := by
  cases file <;> rfl

/-- **Every step keeps the addresses.** -/
theorem Enderecado.step (h : s.Enderecado) (ha : s.step a = some s') : s'.Enderecado := by
  cases efeito_of_step ha with
  | tab => exact h.alocar _
  | busca => exact h.alocar _
  | offline => exact h.alocar _
  | favoritosLocais => exact h.alocar _
  | favoritos => exact h.alocar _
  | @novo form hform =>
    refine (h.alocar _).chamar fun o ho => ?_
    obtain rfl := Option.some.inj ((endereco_salvamento _ _).symm.trans ho)
    simp [Execucao.alocar, Except.toOption]
  | @edita o form c hform ho =>
    refine (h.gravar o _).chamar fun o' ho' => ?_
    obtain rfl := Option.some.inj ((endereco_salvamento _ _).symm.trans ho')
    rw [Execucao.gravar, List.length_set]
    exact (List.getElem?_eq_some_iff.mp ho).1
  | @uploadFeito o foto stored c hp ho =>
    refine ((h.encerrar _).gravar o _).chamar fun o' ho' => ?_
    obtain rfl := Option.some.inj ho'
    rw [Execucao.gravar, List.length_set]
    exact (List.getElem?_eq_some_iff.mp ho).1
  | salvarFalha => exact h.encerrar _
  | salvarLido => exact (h.encerrar _).chamar fun o ho => by cases ho
  | @deletar o c ho =>
    refine h.chamar fun o' ho' => ?_
    obtain rfl := Option.some.inj ho'
    exact (List.getElem?_eq_some_iff.mp ho).1
  | deletarFalha => exact h.encerrar _
  | deletarLido => exact (h.encerrar _).chamar fun o ho => by cases ho
  | enviarFalha => exact h.encerrar _
  | enviar => exact h.encerrar _
  | @favoritar o c ho =>
    refine h.chamar fun o' ho' => ?_
    obtain rfl := Option.some.inj ho'
    exact (List.getElem?_eq_some_iff.mp ho).1
  | favoritarLido => exact h.encerrar _
  | reiniciar => exact fun p hp => absurd hp List.not_mem_nil
  | _ => exact h

/-- The object of a call that waits is there. -/
lemma Enderecado.getElem? (h : s.Enderecado) {p : Pendente} (hp : p ∈ s.pendentes) {o : ℕ}
    (ho : p.endereco = some o) : ∃ c, s.objetos[o]? = some c :=
  ⟨_, List.getElem?_eq_getElem (h p hp o ho)⟩

/-! ## What can go on -/

/-- **No answer blocks a call.**  A step that carries on what was begun can happen exactly if what
it carries on is there, whatever it gets. -/
theorem isSome_step_iff (h : s.Enderecado) (ha : a.continua = true) :
    (s.step a).isSome = true ↔ s.Espera a := by
  cases a with
  | uploadFeito o foto stored =>
    rw [Execucao.step, Espera]
    by_cases hp : .upload o foto ∈ s.pendentes
    · obtain ⟨c, hc⟩ := h.getElem? hp rfl
      simp [hp, hc]
    · simp [hp]
  | salvarLido o stored =>
    rw [Execucao.step, Espera]
    by_cases hp : .salvar o ∈ s.pendentes
    · obtain ⟨c, hc⟩ := h.getElem? hp rfl
      cases hh : headers stored <;> simp [hp, hc]
    · simp [hp]
  | deletarLido o stored =>
    rw [Execucao.step, Espera]
    by_cases hp : .deletar o ∈ s.pendentes
    · obtain ⟨c, hc⟩ := h.getElem? hp rfl
      cases hh : headers stored <;> simp [hp, hc]
    · simp [hp]
  | enviar method url body stored =>
    rw [Execucao.step, Espera]
    by_cases hp : .pedido method url body ∈ s.pendentes
    · cases hh : headers stored <;> simp [hp]
    · simp [hp]
  | atender req absent novo =>
    rw [Execucao.step, Espera, Option.isSome_ite]
  | favoritarLido o document existe =>
    rw [Execucao.step, Espera]
    by_cases hp : .favoritar o document ∈ s.pendentes
    · obtain ⟨c, hc⟩ := h.getElem? hp rfl
      simp [hp, hc]
    · simp [hp]
  | escrever =>
    rw [Execucao.step, Espera]
    cases s.escritas <;> simp
  | inserir gen =>
    rw [Execucao.step, Espera]
    cases s.insercoes <;> simp
  | _ => cases ha

/-- What is not at rest can be carried on. -/
lemma exists_espera (h : ¬ s.EmRepouso) : ∃ a, a.continua = true ∧ s.Espera a := by
  by_contra hnone
  have hespera : ∀ a, a.continua = true → ¬ s.Espera a := fun a ha he => hnone ⟨a, ha, he⟩
  refine h ⟨?_, ?_, ?_, ?_⟩
  · refine List.eq_nil_iff_forall_not_mem.mpr fun p hp => ?_
    cases p with
    | upload o foto => exact hespera (.uploadFeito o foto none) rfl hp
    | salvar o => exact hespera (.salvarLido o none) rfl hp
    | deletar o => exact hespera (.deletarLido o none) rfl hp
    | pedido method url body => exact hespera (.enviar method url body none) rfl hp
    | favoritar o document => exact hespera (.favoritarLido o document false) rfl hp
  · refine List.eq_nil_iff_forall_not_mem.mpr fun req hreq => ?_
    have hnovo : RowIds.largest.next s.catalogo.keys ∉ s.catalogo := fun hmem =>
      RowIds.largest.next_notMem _ (AList.mem_keys.mp hmem)
    exact hespera (.atender req ⟨404, ""⟩ _) rfl ⟨hreq, hnovo⟩
  · by_contra hescritas
    exact hespera .escrever rfl hescritas
  · by_contra hinsercoes
    exact hespera (.inserir .largest) rfl hinsercoes

/-! ## What is ahead -/

/-- A call that waits. -/
@[simp] lemma peso_chamar (s : Execucao) (p : Pendente) : (s.chamar p).peso = s.peso + p.peso := by
  simp only [peso, chamar, StepRun.total_append, StepRun.total_singleton]
  omega

/-- A call that is over. -/
lemma peso_encerrar {p : Pendente} (hp : p ∈ s.pendentes) :
    (s.encerrar p).peso + p.peso = s.peso := by
  have htotal := StepRun.total_erase Pendente.peso hp
  simp only [peso, encerrar]
  omega

/-- A call that goes on has less ahead than before. -/
lemma peso_chamar_encerrar {p q : Pendente} (hp : p ∈ s.pendentes) (hq : q.peso + 1 = p.peso) :
    ((s.encerrar p).chamar q).peso + 1 ≤ s.peso := by
  have hover := peso_encerrar hp
  rw [peso_chamar]
  omega

/-- A call that ends has nothing ahead. -/
lemma peso_encerrar_le {p : Pendente} (hp : p ∈ s.pendentes) :
    (s.encerrar p).peso + 2 ≤ s.peso := by
  have hover := peso_encerrar hp
  have hpeso : 2 ≤ p.peso := by cases p <;> simp [Pendente.peso]
  omega

/-- What a tap of `Salvar` in a valid form costs. -/
lemma peso_salvamento (o : Option ℕ) (o' : ℕ) {form : Formulario}
    (hform : ¬ (CarroFormPage.validateNome form.nome).isSome = true) :
    (salvamento o' form.file).peso = PassoExecucao.custo (.salvar o form) := by
  rw [PassoExecucao.custo, if_neg hform]
  cases form.file <;> rfl

/-- **A step brings at most its cost, and takes one off if it carries on what was begun.** -/
theorem peso_step (ha : s.step a = some s') :
    s'.peso + (if a.continua then 1 else 0) ≤ s.peso + a.custo := by
  cases efeito_of_step ha with
  | @tab answer =>
    simp only [peso, Execucao.alocar, List.length_append, PassoExecucao.custo]
    exact (Nat.add_assoc _ _ _).ge
  | @novo form hform =>
    rw [peso_chamar, peso_salvamento none _ hform]
    exact le_rfl
  | @edita o form c hform ho =>
    rw [peso_chamar, peso_salvamento (some o) _ hform]
    exact le_rfl
  | @uploadFeito o foto stored c hp ho =>
    have hgravar : (((s.encerrar (.upload o foto)).gravar o
        (CarrosApi.enviarFoto stored c (some foto))).chamar (.salvar o)).peso =
        ((s.encerrar (.upload o foto)).chamar (.salvar o)).peso := rfl
    rw [hgravar]
    exact peso_chamar_encerrar hp rfl
  | salvarFalha hp => exact (Nat.le_succ _).trans (peso_encerrar_le hp)
  | salvarLido hp => exact peso_chamar_encerrar hp rfl
  | deletar => exact (peso_chamar s _).le
  | deletarFalha hp => exact (Nat.le_succ _).trans (peso_encerrar_le hp)
  | deletarLido hp => exact peso_chamar_encerrar hp rfl
  | enviarFalha hp => exact (Nat.le_succ _).trans (peso_encerrar_le hp)
  | @enviar method url body stored hs hp hh =>
    have hmandar : ((s.encerrar (.pedido method url body)).mandar ⟨method, url, hs, body⟩).peso =
        (s.encerrar (.pedido method url body)).peso + 1 := by
      simp only [peso, mandar, List.length_append, List.length_singleton]
      omega
    rw [hmandar]
    exact peso_encerrar_le hp
  | @atender req absent novo hreq hnovo =>
    have hlength := List.length_erase_of_mem hreq
    have hpos := List.length_pos_of_mem hreq
    simp only [peso, hlength, PassoExecucao.continua, if_true]
    omega
  | favoritar => exact (peso_chamar s _).le
  | @favoritarLido o document existe c hp ho =>
    have hescrita : peso { s.encerrar (.favoritar o document) with
        escritas := s.escritas ++ [(document, (FavoritoService.decidir existe c).2)] } =
        (s.encerrar (.favoritar o document)).peso + 1 := by
      simp only [peso, encerrar, List.length_append, List.length_singleton]
      omega
    rw [hescrita]
    exact peso_encerrar_le hp
  | escrever hw =>
    simp only [peso, hw, List.length_cons, PassoExecucao.continua, if_true]
    omega
  | inserir hc =>
    simp only [peso, hc, List.length_cons, PassoExecucao.continua, if_true]
    omega
  | reiniciar =>
    simp only [peso, StepRun.total, List.length_nil, PassoExecucao.continua, Bool.false_eq_true,
      if_false]
    omega
  | _ => exact Nat.le_add_right _ _

/-- **The app comes to rest.**  In every run from a fresh install the steps that carried something
on, and those that are still ahead, are paid for by the taps and by the cars the tabs listed: no
more than four for a tap, and one for a car.  Whatever is ahead can go on, whatever it gets.  And
without a further tap the app reaches a state in which nothing is left. -/
theorem repousa {cat : Catalogo} {col : Colecao} {as : List PassoExecucao} {t : Execucao}
    (hrun : StepRun.run step (inicio cat col) as = some t) :
    as.countP PassoExecucao.continua + t.peso ≤ StepRun.total PassoExecucao.custo as ∧
      (∀ a, a.continua = true → ((t.step a).isSome = true ↔ t.Espera a)) ∧
      ∃ bs u, (∀ b ∈ bs, b.continua = true) ∧ StepRun.run step t bs = some u ∧ u.EmRepouso := by
  have hinicio : (inicio cat col).Enderecado := fun p hp => absurd hp List.not_mem_nil
  have ht : t.Enderecado :=
    StepRun.run_invariant_of_step (fun _ _ _ h ha => h.step ha) hinicio hrun
  refine ⟨?_, fun a ha => isSome_step_iff ht ha, ?_⟩
  · have hbudget := StepRun.run_budget (I := fun _ => True) (fun _ _ _ _ _ => trivial)
      (fun s a s' _ ha => peso_step ha) trivial hrun
    simpa [peso, inicio, StepRun.total] using hbudget
  · refine StepRun.exists_run_rest peso (fun _ _ _ h ha => Enderecado.step h ha)
      (fun s a s' _ hwork ha => ?_) (fun s h hrest => ?_) ht
    · have hstep := peso_step ha
      have hcusto : a.custo = 0 := by cases a <;> first | rfl | cases hwork
      rw [hcusto, if_pos hwork] at hstep
      exact hstep
    · obtain ⟨a, ha, hespera⟩ := exists_espera hrest
      obtain ⟨s', hs'⟩ := Option.isSome_iff_exists.mp ((isSome_step_iff h ha).mpr hespera)
      exact ⟨a, s', ha, hs'⟩

/-- The run with a save, a favourite and a deletion pays for eight steps, and rest can be reached
from where it ends. -/
theorem repousa_roteiro :
    ∃ hs t, StepRun.run step (inicio ∅ ∅) (roteiro hs) = some t ∧
      (roteiro hs).countP PassoExecucao.continua + t.peso ≤ 8 ∧
      ∃ bs u, (∀ b ∈ bs, b.continua = true) ∧ StepRun.run step t bs = some u ∧ u.EmRepouso := by
  obtain ⟨hs, t, hrun⟩ := exists_run_roteiro
  obtain ⟨hcusto, -, hrepouso⟩ := repousa hrun
  exact ⟨hs, t, hrun, hcusto, hrepouso⟩

end Execucao

end Carros
