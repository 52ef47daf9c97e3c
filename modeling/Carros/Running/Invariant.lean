import Carros.Local.Refresh
import Carros.Running.Model

/-!
# What every state of the running app has in common

The decoder `Carro.fromJson` keeps three fields of a car, and the form of a car without fields
starts from one that has none, so no object of the running app ever has an id, a video or a place:
`Carro.Basico`.  What follows from it for calls, requests, writes and tables is `Execucao.Inv`.
Each operation on the state keeps it, and `Execucao.Inv.step` and `Execucao.inv_run` put that
together.
-/

namespace Carros

open Dart Sql

/-- The car has neither id, nor video, nor place. -/
structure Carro.Basico (c : Carro) : Prop where
  id : c.id = none
  urlVideo : c.urlVideo = none
  latitude : c.latitude = none
  longitude : c.longitude = none

/-- The car has the fields a valid form writes. -/
structure Carro.Preenchido (c : Carro) : Prop where
  nome : ∃ nome, c.nome = some nome ∧ nome ≠ ""
  descricao : ∃ descricao, c.descricao = some descricao
  tipo : ∃ radioIndex, c.tipo = some (CarroFormPage.getTipo radioIndex)

/-- A request that names no record: the post of a car a form has filled in, or the deletion of the
car `null`. -/
def Inofensivo (method : Method) (url : String) (body : Option String) : Prop :=
  (∃ c : Carro, c.Basico ∧ c.Preenchido ∧ method = .post ∧ url = urlCarros ∧
      body = some c.toJson) ∨
    method = .delete ∧ url = urlCarro none ∧ body = none

/-- What a call that waits refers to. -/
def Pendente.Valido (objetos : List Carro) : Pendente → Prop
  | .upload o _ => ∃ c, objetos[o]? = some c ∧ c.Preenchido
  | .salvar o => ∃ c, objetos[o]? = some c ∧ c.Preenchido
  | .deletar _ => True
  | .pedido method url body => Inofensivo method url body
  | .favoritar _ document => document = "null"

/-- A write that deletes the document, or gives it the map of a car. -/
def DocWrite.DeCarro : DocWrite → Prop
  | .setData data => ∃ c : Carro, data = c.toMap
  | .delete => True

/-- The local tables: no stored car has a tipo, and there are no favourites. -/
def SemTipos (db : Database) : Prop :=
  ∃ carros, FavoritoService.Guarda db carros (fun _ => none) ∧
    ∀ i c, carros i = some c → c.tipo = none

/-- What every state has in common. -/
structure Execucao.Inv (s : Execucao) : Prop where
  objetos : ∀ c ∈ s.objetos, c.Basico
  pendentes : ∀ p ∈ s.pendentes, p.Valido s.objetos
  enviados : ∀ req ∈ s.enviados, Inofensivo req.method req.url req.body
  rede : ∀ req ∈ s.rede, Inofensivo req.method req.url req.body
  escritas : ∀ w ∈ s.escritas, w.1 = "null" ∧ w.2.DeCarro
  insercoes : ∀ c ∈ s.insercoes, c.Basico ∧ c.tipo = none
  banco : SemTipos s.banco

/-! ## Cars -/

/-- What `fromJson` returns has no fields but three. -/
lemma Carro.basico_of_fromJson {json : DynMap} {c : Carro} (h : fromJson json = .ok c) :
    c.Basico ∧ c.tipo = none := by
  obtain ⟨nome, -, h⟩ := bind_eq_ok.mp h
  obtain ⟨descricao, -, h⟩ := bind_eq_ok.mp h
  obtain ⟨urlFoto, -, h⟩ := bind_eq_ok.mp h
  obtain rfl := Except.ok.inj h
  exact ⟨⟨rfl, rfl, rfl, rfl⟩, rfl⟩

/-- The cars of a list from the server have no fields but three. -/
lemma basico_of_carrosDe {answer : Except DartError Response} {carros : List Carro}
    (h : Execucao.carrosDe answer = .ok carros) : ∀ c ∈ carros, c.Basico ∧ c.tipo = none := by
  intro c hc
  obtain ⟨response, -, h⟩ := bind_eq_ok.mp h
  unfold CarrosApi.decodeCarros at h
  split at h
  · cases h
  obtain ⟨list, -, h⟩ := bind_eq_ok.mp h
  obtain ⟨d, -, hd⟩ := exists_of_mapM_eq_ok h hc
  obtain ⟨map, -, hmap⟩ := bind_eq_ok.mp hd
  exact Carro.basico_of_fromJson hmap

/-- The cars of a snapshot have no fields but three. -/
lemma basico_of_toList {col : Colecao} {carros : List Carro}
    (h : FavoritoService.toList col = .ok carros) : ∀ c ∈ carros, c.Basico := by
  intro c hc
  obtain ⟨d, -, hd⟩ := exists_of_mapM_eq_ok h hc
  exact (Carro.basico_of_fromJson hd).1

/-- A form does not give a car an id, a video or a place. -/
lemma Carro.Basico.preencher {carro : Option Carro} (h : ∀ c, carro = some c → c.Basico)
    (form : Formulario) : (CarroFormPage.preencher carro form).Basico := by
  cases carro with
  | none => exact ⟨rfl, rfl, rfl, rfl⟩
  | some c =>
    obtain ⟨hid, hvideo, hlat, hlng⟩ := h c rfl
    exact ⟨hid, hvideo, hlat, hlng⟩

/-- A valid form fills in its fields. -/
lemma preenchido_preencher {form : Formulario}
    (h : ¬ (CarroFormPage.validateNome form.nome).isSome = true) (carro : Option Carro) :
    (CarroFormPage.preencher carro form).Preenchido := by
  refine ⟨⟨form.nome, rfl, ?_⟩, ⟨_, rfl⟩, ⟨form.radioIndex, rfl⟩⟩
  rintro hnome
  simp [CarroFormPage.validateNome, hnome] at h

/-- Saving a car without an id posts it. -/
lemma inofensivo_salvar {c : Carro} (hb : c.Basico) (hp : c.Preenchido) :
    Inofensivo (CarrosApi.saveMethod c) (CarrosApi.saveUrl c) (some c.toJson) := by
  rw [CarrosApi.saveMethod, CarrosApi.saveUrl, if_pos hb.id, if_pos hb.id]
  exact Or.inl ⟨c, hb, hp, rfl, rfl, rfl⟩

/-- A toggle writes the map of the car, or deletes. -/
lemma deCarro_decidir (existe : Bool) (c : Carro) :
    (FavoritoService.decidir existe c).2.DeCarro := by
  cases existe with
  | false => exact ⟨c, rfl⟩
  | true => trivial

/-- More objects, or an object written, take nothing from a call as long as what a form filled in
stays so. -/
lemma Pendente.Valido.of_forall {objetos objetos' : List Carro} {p : Pendente}
    (h : p.Valido objetos)
    (hkeep : ∀ (o : ℕ) (c : Carro), objetos[o]? = some c → c.Preenchido →
      ∃ c' : Carro, objetos'[o]? = some c' ∧ c'.Preenchido) : p.Valido objetos' := by
  cases p with
  | upload o foto =>
    obtain ⟨c, hc, hp⟩ := h
    exact hkeep o c hc hp
  | salvar o =>
    obtain ⟨c, hc, hp⟩ := h
    exact hkeep o c hc hp
  | deletar o => trivial
  | pedido method url body => exact h
  | favoritar o document => exact h

/-- A save may start on an object that is filled in. -/
lemma valido_salvamento {objetos : List Carro} {o : ℕ} {c : Carro} (ho : objetos[o]? = some c)
    (hp : c.Preenchido) (file : Option Foto) :
    (Execucao.salvamento o file).Valido objetos := by
  cases file with
  | none => exact ⟨c, ho, hp⟩
  | some foto => exact ⟨c, ho, hp⟩

/-! ## The local tables -/

/-- The tables of a fresh install are empty. -/
lemma semTipos_bancoCriado : SemTipos bancoCriado := by
  refine ⟨fun _ => none, ⟨⟨⟨colunasCarro, ∅⟩, rfl, rfl, fun i => ?_⟩,
    ⟨⟨colunasNome, ∅⟩, rfl, rfl, fun i => ?_⟩⟩, fun i c hc => by cases hc⟩
  · exact .none
  · exact .none

/-- Saving a car without a tipo leaves no stored car with one. -/
lemma SemTipos.save {db : Database} (h : SemTipos db) (gen : RowIds) {c : Carro}
    (htipo : c.tipo = none) : ∃ i db', CarroDAO.save db gen c = .ok (i, db') ∧ SemTipos db' := by
  obtain ⟨carros, hguarda, htipos⟩ := h
  obtain ⟨i, db', hsave, -, -, hholds, hframe⟩ := BaseDAO.Fits.save_eq hguarda.carros gen c
  refine ⟨i, db', hsave, _, ⟨hholds, hguarda.favoritos.of_lookup_eq (hframe _ (by decide))⟩, ?_⟩
  intro j d hd
  by_cases hji : j = i
  · subst hji
    rw [Function.update_self] at hd
    rw [← Option.some.inj hd]
    exact htipo
  · rw [Function.update_of_ne hji] at hd
    exact htipos j d hd

/-- No car is found under a tipo. -/
lemma SemTipos.findAllByTipo {db : Database} (h : SemTipos db) (tipo : String) :
    CarroDAO.findAllByTipo db (some tipo) = .ok [] := by
  obtain ⟨carros, hguarda, htipos⟩ := h
  obtain ⟨cs, hcs, -, -, hmem⟩ := (CarroDAO.readsTipo hguarda.carros).findAllByTipo tipo
  have hnil : cs = [] := by
    refine List.eq_nil_iff_forall_not_mem.mpr fun c hc => ?_
    obtain ⟨⟨i, hi⟩, htipo⟩ := (hmem c).mp hc
    rw [htipos i c hi] at htipo
    cases htipo
  rw [hcs, hnil]

/-- No car is found among the favourites. -/
lemma SemTipos.getCarros {db : Database} (h : SemTipos db) :
    FavoritoService.getCarros db = .ok [] := by
  obtain ⟨carros, hguarda, -⟩ := h
  obtain ⟨ids, -, -, hget⟩ := hguarda.getCarros_eq
  have hnone : ∀ i ∈ ids, FavoritoService.juncao carros (fun _ => none) i = none := by
    intro i _
    rw [FavoritoService.juncao]
    cases carros i <;> rfl
  rw [hget, List.filterMap_eq_nil_iff.mpr hnone]

/-! ## Operations -/

namespace Execucao

variable {s : Execucao}

/-- A fresh install. -/
lemma inv_inicio (cat : Catalogo) (col : Colecao) : (inicio cat col).Inv where
  objetos := by simp [inicio]
  pendentes := by simp [inicio]
  enviados := by simp [inicio]
  rede := by simp [inicio]
  escritas := by simp [inicio]
  insercoes := by simp [inicio]
  banco := semTipos_bancoCriado

/-- Cars without ids, videos and places may become objects. -/
lemma Inv.alocar (h : s.Inv) {carros : Except DartError (List Carro)}
    (hcarros : ∀ cs, carros = .ok cs → ∀ c ∈ cs, c.Basico) : (s.alocar carros).Inv := by
  refine { h with objetos := ?_, pendentes := fun p hp => ?_ }
  · intro c hc
    rcases List.mem_append.mp hc with hc | hc
    · exact h.objetos c hc
    · cases carros with
      | error e => exact absurd hc List.not_mem_nil
      | ok cs => exact hcarros cs rfl c hc
  · refine Pendente.Valido.of_forall (h.pendentes p hp) fun o c hc hp => ⟨c, ?_, hp⟩
    exact (List.getElem?_append_left (List.getElem?_eq_some_iff.mp hc).1).trans hc

/-- An object may be written that stays without id, video and place, and filled in if it was. -/
lemma Inv.gravar (h : s.Inv) {o : ℕ} {c c' : Carro} (ho : s.objetos[o]? = some c)
    (hb : c.Basico → c'.Basico) (hp : c.Preenchido → c'.Preenchido) : (s.gravar o c').Inv := by
  refine { h with objetos := ?_, pendentes := fun p hpend => ?_ }
  · intro d hd
    rcases List.mem_or_eq_of_mem_set hd with hd | rfl
    · exact h.objetos d hd
    · exact hb (h.objetos c (List.mem_of_getElem? ho))
  · refine Pendente.Valido.of_forall (h.pendentes p hpend) fun o' d hd hdp => ?_
    by_cases ho' : o = o'
    · subst ho'
      obtain rfl := Option.some.inj (ho.symm.trans hd)
      exact ⟨c', List.getElem?_set_self (List.getElem?_eq_some_iff.mp ho).1, hp hdp⟩
    · exact ⟨d, (List.getElem?_set_ne ho').trans hd, hdp⟩

/-- A call may start to wait. -/
lemma Inv.chamar (h : s.Inv) {p : Pendente} (hp : p.Valido s.objetos) : (s.chamar p).Inv :=
  { h with
    pendentes := List.forall_mem_append.mpr ⟨h.pendentes, List.forall_mem_singleton.mpr hp⟩ }

/-- A call may end. -/
lemma Inv.encerrar (h : s.Inv) (p : Pendente) : (s.encerrar p).Inv :=
  { h with pendentes := fun q hq => h.pendentes q (List.mem_of_mem_erase hq) }

/-- A request that names no record may be sent. -/
lemma Inv.mandar (h : s.Inv) {req : Request} (hreq : Inofensivo req.method req.url req.body) :
    (s.mandar req).Inv :=
  { h with
    enviados := List.forall_mem_append.mpr ⟨h.enviados, List.forall_mem_singleton.mpr hreq⟩
    rede := List.forall_mem_append.mpr ⟨h.rede, List.forall_mem_singleton.mpr hreq⟩ }

/-- **Every step keeps the invariant.** -/
theorem Inv.step {s' : Execucao} {a : PassoExecucao} (h : s.Inv) (ha : s.step a = some s') :
    s'.Inv := by
  cases efeito_of_step ha with
  | @tab answer =>
    have hcarros : ∀ cs, carrosDe answer = .ok cs → ∀ c ∈ cs, c.Basico ∧ c.tipo = none :=
      fun cs => basico_of_carrosDe
    refine { h.alocar fun cs hcs c hc => (hcarros cs hcs c hc).1 with
      insercoes := List.forall_mem_append.mpr ⟨h.insercoes, ?_⟩ }
    cases hanswer : carrosDe answer with
    | error e => exact fun c hc => absurd hc List.not_mem_nil
    | ok cs => exact hcarros cs hanswer
  | busca => exact h.alocar fun cs hcs c hc => (basico_of_carrosDe hcs c hc).1
  | @offline tipo =>
    refine h.alocar fun cs hcs => ?_
    obtain rfl := Except.ok.inj ((h.banco.findAllByTipo tipo).symm.trans hcs)
    exact fun c hc => absurd hc List.not_mem_nil
  | favoritosLocais =>
    refine h.alocar fun cs hcs => ?_
    obtain rfl := Except.ok.inj (h.banco.getCarros.symm.trans hcs)
    exact fun c hc => absurd hc List.not_mem_nil
  | favoritos => exact h.alocar fun cs hcs => basico_of_toList hcs
  | invalido hform => exact h
  | @novo form hform =>
    have hnovo : ∀ cs, (.ok [CarroFormPage.preencher none form] : Except DartError _) = .ok cs →
        ∀ c ∈ cs, c.Basico := by
      intro cs hcs
      obtain rfl := Except.ok.inj hcs
      exact List.forall_mem_singleton.mpr (Carro.Basico.preencher (fun c hc => by cases hc) form)
    refine (h.alocar hnovo).chamar
      (valido_salvamento ?_ (preenchido_preencher hform none) form.file)
    exact List.getElem?_concat_length
  | @edita o form c hform ho =>
    have hp := preenchido_preencher hform (some c)
    have hb : c.Basico → (CarroFormPage.preencher (some c) form).Basico := fun hc =>
      Carro.Basico.preencher (fun d hd => Option.some.inj hd ▸ hc) form
    refine (h.gravar ho hb fun _ => hp).chamar (valido_salvamento ?_ hp form.file)
    exact List.getElem?_set_self (List.getElem?_eq_some_iff.mp ho).1
  | @uploadFeito o foto stored c hpend ho =>
    obtain ⟨urlFoto, hfoto⟩ := CarrosApi.exists_enviarFoto stored c (some foto)
    obtain ⟨d, hd, hp⟩ := h.pendentes _ hpend
    obtain rfl := Option.some.inj (ho.symm.trans hd)
    have hp' : (CarrosApi.enviarFoto stored c (some foto)).Preenchido := by
      rw [hfoto]
      exact ⟨hp.nome, hp.descricao, hp.tipo⟩
    refine ((h.encerrar _).gravar ho (fun hb => ?_) fun _ => hp').chamar ⟨_, ?_, hp'⟩
    · rw [hfoto]
      exact ⟨hb.id, hb.urlVideo, hb.latitude, hb.longitude⟩
    · exact List.getElem?_set_self (List.getElem?_eq_some_iff.mp ho).1
  | salvarFalha hpend hh => exact h.encerrar _
  | @salvarLido o stored hs c hpend hh ho =>
    obtain ⟨d, hd, hp⟩ := h.pendentes _ hpend
    obtain rfl := Option.some.inj (ho.symm.trans hd)
    exact (h.encerrar _).chamar
      (inofensivo_salvar (h.objetos c (List.mem_of_getElem? ho)) hp)
  | deletar ho => exact h.chamar trivial
  | deletarFalha hpend hh => exact h.encerrar _
  | @deletarLido o stored hs c hpend hh ho =>
    have hid : c.id = none := (h.objetos c (List.mem_of_getElem? ho)).id
    rw [hid]
    exact (h.encerrar _).chamar (Or.inr ⟨rfl, rfl, rfl⟩)
  | enviarFalha hpend hh => exact h.encerrar _
  | enviar hpend hh => exact (h.encerrar _).mandar (h.pendentes _ hpend)
  | atender hreq hnovo =>
    exact { h with rede := fun r hr => h.rede r (List.mem_of_mem_erase hr) }
  | @favoritar o c ho =>
    have hid : c.id = none := (h.objetos c (List.mem_of_getElem? ho)).id
    refine h.chamar ?_
    rw [FavoritoService.document, hid]
    rfl
  | @favoritarLido o document existe c hpend ho =>
    exact { h.encerrar _ with
      escritas := List.forall_mem_append.mpr
        ⟨h.escritas,
          List.forall_mem_singleton.mpr ⟨h.pendentes _ hpend, deCarro_decidir existe c⟩⟩ }
  | escrever hw =>
    have hescritas := h.escritas
    rw [hw] at hescritas
    exact { h with escritas := (List.forall_mem_cons.mp hescritas).2 }
  | @inserir gen c insercoes hc =>
    have hinsercoes := h.insercoes
    rw [hc] at hinsercoes
    obtain ⟨⟨-, htipo⟩, hrest⟩ := List.forall_mem_cons.mp hinsercoes
    obtain ⟨i, db, hsave, hdb⟩ := h.banco.save gen htipo
    have hbanco : (CarroDAO.save s.banco gen c).toOption.elim s.banco Prod.snd = db := by
      rw [hsave]
      rfl
    exact { h with banco := hbanco ▸ hdb, insercoes := hrest }
  | mapa ho => exact { h with }
  | video ho => exact { h with }
  | reiniciar =>
    exact { h with
      objetos := fun c hc => absurd hc List.not_mem_nil
      pendentes := fun p hp => absurd hp List.not_mem_nil
      insercoes := fun c hc => absurd hc List.not_mem_nil }

/-- The invariant holds after every run. -/
theorem inv_run {cat : Catalogo} {col : Colecao} {as : List PassoExecucao} {t : Execucao}
    (hrun : StepRun.run step (inicio cat col) as = some t) : t.Inv :=
  StepRun.run_invariant_of_step (fun _ _ _ h ha => h.step ha) (inv_inicio cat col) hrun

end Execucao

end Carros
