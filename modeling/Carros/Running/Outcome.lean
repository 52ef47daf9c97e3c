import Carros.Running.Invariant

/-!
# What the running app does to the world

What `Execucao.Inv` says about the pieces, put together for whole runs from a fresh install, with
any answers of the server, any session and any order of steps.

* The server: `so_acrescenta`, no record is ever changed or removed, and every new one is what a
  form filled in; `um_por_toque`, a tap of `Salvar` creates at most one.
* The collection: `so_o_documento_null`, one document is all the app ever writes.
* The local database: `so_grava`, every car listed by a tab adds a row, and no query of the app
  finds one.
* The car page: `sem_mapa_nem_video`.
-/

namespace Carros

open Dart Sql

/-- A record as the form makes it. -/
structure Registro.DeFormulario (r : Registro) : Prop where
  nome : ∃ nome, r.nome = some nome ∧ nome ≠ ""
  descricao : ∃ descricao, r.descricao = some descricao
  tipo : ∃ radioIndex, r.tipo = some (CarroFormPage.getTipo radioIndex)
  urlVideo : r.urlVideo = none
  latitude : r.latitude = none
  longitude : r.longitude = none

/-- A label that taps `Salvar` in a valid form. -/
def PassoExecucao.salva : PassoExecucao → Bool
  | .salvar _ form => !(CarroFormPage.validateNome form.nome).isSome
  | _ => false

/-- A label that executes an insert statement. -/
def PassoExecucao.insere : PassoExecucao → Bool
  | .inserir _ => true
  | _ => false

/-- A call that has a post ahead of it. -/
def Pendente.cria : Pendente → Bool
  | .upload _ _ => true
  | .salvar _ => true
  | .pedido .post _ _ => true
  | _ => false

/-! ## The server -/

/-- The record of a car that a form has filled in. -/
lemma deFormulario_registro {c : Carro} (hb : c.Basico) (hp : c.Preenchido) :
    c.registro.DeFormulario :=
  ⟨hp.nome, hp.descricao, hp.tipo, hb.urlVideo, hb.latitude, hb.longitude⟩

/-- What the server does with a request that names no record: a post adds a record, a deletion does
nothing. -/
lemma answer_of_inofensivo {req : Request} (h : Inofensivo req.method req.url req.body)
    (absent : Response) (novo : Int) (cat : Catalogo) :
    (req.method = .post ∧ ∃ r : Registro, r.DeFormulario ∧
        (Catalogo.answer absent novo req cat).2 = cat.insert novo r) ∨
      req.method = .delete ∧ (Catalogo.answer absent novo req cat).2 = cat := by
  rcases h with ⟨c, hb, hp, hmethod, hurl, hbody⟩ | ⟨hmethod, hurl, -⟩
  · refine Or.inl ⟨hmethod, c.registro, deFormulario_registro hb hp, ?_⟩
    simp [Catalogo.answer, hmethod, hurl, hbody]
  · refine Or.inr ⟨hmethod, ?_⟩
    simp [Catalogo.answer, hmethod, hurl, Catalogo.recurso_urlCarro_none]

/-- The count of the rows is what `count` returns. -/
lemma CarrosBloc.TemLinhas.count_eq {db : Database} {n : ℕ} (h : CarrosBloc.TemLinhas db n) :
    CarroDAO.count db = .ok (some n) := by
  obtain ⟨t, ht, -, hn⟩ := h
  have htable : db.table CarroDAO.tableName = .ok t := Database.table_eq_ok ht
  simp only [BaseDAO.count, Database.rawQuery, htable, ok_bind]
  simp [firstIntValue, hn, pure, Except.pure]

/-- The page of the favourites can list a collection exactly if every document is decoded. -/
lemma FavoritoService.exists_toList_iff {col : Colecao} :
    (∃ cs, toList col = .ok cs) ↔
      ∀ k data, col.lookup k = some data → ∃ c, Carro.fromJson data = .ok c := by
  have hmem : ∀ d : (Σ _ : String, DynMap), d ∈ col.snapshot ↔ col.lookup d.1 = some d.2 :=
    fun d => (List.mem_insertionSort _).trans AList.mem_lookup_iff.symm
  refine exists_mapM_eq_ok_iff.trans ⟨fun h k data hdata => ?_, fun h d hd => ?_⟩
  · exact h ⟨k, data⟩ ((hmem ⟨k, data⟩).mpr hdata)
  · exact h d.1 d.2 ((hmem d).mp hd)

/-- The page of the favourites lists a car for every document. -/
lemma FavoritoService.length_toList {col : Colecao} {cs : List Carro} (h : toList col = .ok cs) :
    cs.length = col.keys.length := by
  rw [length_of_mapM_eq_ok h, Colecao.snapshot, List.length_insertionSort, AList.keys,
    List.keys, List.length_map]

namespace Execucao

variable {s : Execucao}

/-- What a step does to the catalogue, the documents and the tables: one handles a request, one
applies a write, one executes a statement, and the others leave them alone. -/
lemma fora_step {s' : Execucao} {a : PassoExecucao} (ha : s.step a = some s') :
    (s'.catalogo = s.catalogo ∨
        ∃ req absent novo, req ∈ s.rede ∧ novo ∉ s.catalogo ∧
          s'.catalogo = (Catalogo.answer absent novo req s.catalogo).2) ∧
      (s'.documentos = s.documentos ∨
        ∃ w ∈ s.escritas, s'.documentos = s.documentos.apply w.1 w.2) ∧
      (s'.banco = s.banco ∧ a.insere = false ∨
        ∃ gen, ∃ c ∈ s.insercoes, a.insere = true ∧
          s'.banco = (CarroDAO.save s.banco gen c).toOption.elim s.banco Prod.snd) := by
  cases efeito_of_step ha with
  | atender hreq hnovo =>
    exact ⟨Or.inr ⟨_, _, _, hreq, hnovo, rfl⟩, Or.inl rfl, Or.inl ⟨rfl, rfl⟩⟩
  | @escrever document write escritas hw =>
    exact ⟨Or.inl rfl, Or.inr ⟨(document, write), hw ▸ List.mem_cons_self, rfl⟩,
      Or.inl ⟨rfl, rfl⟩⟩
  | @inserir gen c insercoes hc =>
    exact ⟨Or.inl rfl, Or.inl rfl, Or.inr ⟨gen, c, hc ▸ List.mem_cons_self, rfl, rfl⟩⟩
  | _ => exact ⟨Or.inl rfl, Or.inl rfl, Or.inl ⟨rfl, rfl⟩⟩

/-- A step adds a record as a form makes it, or leaves the catalogue alone. -/
lemma Inv.catalogo_step (h : s.Inv) {s' : Execucao} {a : PassoExecucao}
    (ha : s.step a = some s') :
    s'.catalogo = s.catalogo ∨
      ∃ novo r, novo ∉ s.catalogo ∧ r.DeFormulario ∧ s'.catalogo = s.catalogo.insert novo r := by
  rcases (fora_step ha).1 with hsame | ⟨req, absent, novo, hreq, hnovo, hcat⟩
  · exact Or.inl hsame
  · rcases answer_of_inofensivo (h.rede req hreq) absent novo s.catalogo with
      ⟨-, r, hr, hanswer⟩ | ⟨-, hanswer⟩
    · exact Or.inr ⟨novo, r, hnovo, hr, hcat.trans hanswer⟩
    · exact Or.inl (hcat.trans hanswer)

/-- **The app only adds records.**  In every run, whatever the server answers and in whatever order
taps, answers and deliveries come: every request sent by `save`, `delete` and the form posts a new
car or deletes the car `null`; every record the server had is there unchanged; and every other
record has a nome that is not empty, a descricao, one of the three tipos, and neither video nor
place. -/
theorem so_acrescenta {cat : Catalogo} {col : Colecao} {as : List PassoExecucao} {t : Execucao}
    (hrun : StepRun.run step (inicio cat col) as = some t) :
    (∀ req ∈ t.enviados, req.method = .post ∧ req.url = urlCarros ∧
          (∃ c : Carro, c.id = none ∧ req.body = some c.toJson) ∨
        req.method = .delete ∧ req.url = urlCarro none) ∧
      cat.Extends t.catalogo ∧
      ∀ i r, t.catalogo.lookup i = some r → cat.lookup i = some r ∨ r.DeFormulario := by
  have hinv := StepRun.run_invariant_of_step
    (I := fun s : Execucao => s.Inv ∧ cat.Extends s.catalogo ∧
      ∀ i r, s.catalogo.lookup i = some r → cat.lookup i = some r ∨ r.DeFormulario)
    ?_ ⟨inv_inicio cat col, AList.Extends.refl cat, fun i r hr => Or.inl hr⟩ hrun
  · refine ⟨fun req hreq => ?_, hinv.2⟩
    rcases hinv.1.enviados req hreq with ⟨c, hb, -, hmethod, hurl, hbody⟩ | ⟨hmethod, hurl, -⟩
    · exact Or.inl ⟨hmethod, hurl, c, hb.id, hbody⟩
    · exact Or.inr ⟨hmethod, hurl⟩
  · rintro s a s' ⟨h, hext, hnovos⟩ ha
    refine ⟨h.step ha, ?_⟩
    rcases h.catalogo_step ha with hsame | ⟨novo, r, hnovo, hr, hcat⟩
    · rw [hsame]
      exact ⟨hext, hnovos⟩
    · rw [hcat]
      refine ⟨hext.trans (AList.extends_insert hnovo r), fun i r' hr' => ?_⟩
      by_cases hi : i = novo
      · subst hi
        rw [AList.lookup_insert] at hr'
        exact Or.inr (Option.some.inj hr' ▸ hr)
      · rw [AList.lookup_insert_ne hi] at hr'
        exact hnovos i r' hr'

/-- A car is created, its map is asked for, it becomes a favourite, and its deletion is sent. -/
def roteiro (hs : List (String × String)) : List PassoExecucao :=
  let sessao := some "\x7b\"roles\":[]\x7d"
  let form : Formulario := ⟨"Fusca", "", 0, none⟩
  let body := some (CarroFormPage.preencher none form).toJson
  [.salvar none form, .mapa 0, .salvarLido 0 sessao, .enviar .post urlCarros body sessao,
    .atender ⟨.post, urlCarros, hs, body⟩ ⟨404, ""⟩ 7, .favoritar 0,
    .favoritarLido 0 "null" false, .escrever, .deletar 0, .deletarLido 0 sessao,
    .enviar .delete (urlCarro none) none sessao]

/-- This can happen. -/
lemma exists_run_roteiro :
    ∃ hs t, StepRun.run step (inicio ∅ ∅) (roteiro hs) = some t := by
  obtain ⟨hs, hh⟩ := exists_headers_semRoles
  refine ⟨hs, Option.isSome_iff_exists.mp ?_⟩
  simp [roteiro, StepRun.run_cons, step, inicio, alocar, chamar, encerrar, mandar, interpolate,
    Except.toOption, hh, CarroFormPage.validateNome, CarroFormPage.preencher, salvamento,
    CarrosApi.saveMethod, CarrosApi.saveUrl, FavoritoService.document, Catalogo.answer]

/-- A run that posts one car and sends the deletion of another, on an empty catalogue. -/
theorem so_acrescenta_roteiro :
    ∃ hs t, StepRun.run step (inicio ∅ ∅) (roteiro hs) = some t ∧
      ∀ i r, t.catalogo.lookup i = some r → r.DeFormulario := by
  obtain ⟨hs, t, hrun⟩ := exists_run_roteiro
  obtain ⟨-, -, hnovos⟩ := so_acrescenta hrun
  refine ⟨hs, t, hrun, fun i r hr => ?_⟩
  rcases hnovos i r hr with hold | hnew
  · cases hold
  · exact hnew

/-! ### How many records -/

/-- The records, and the posts that are still ahead. -/
def criacoes (s : Execucao) : ℕ :=
  s.pendentes.countP Pendente.cria + s.rede.countP (fun req => req.method = .post) +
    s.catalogo.keys.length

/-- A call that waits. -/
@[simp] lemma criacoes_chamar (s : Execucao) (p : Pendente) :
    (s.chamar p).criacoes = s.criacoes + if p.cria then 1 else 0 := by
  simp only [criacoes, chamar, List.countP_append, List.countP_singleton]
  omega

/-- A call that is over. -/
lemma criacoes_encerrar {p : Pendente} (hp : p ∈ s.pendentes) :
    (s.encerrar p).criacoes + (if p.cria then 1 else 0) = s.criacoes := by
  have hcount := (List.perm_cons_erase hp).countP_eq Pendente.cria
  rw [List.countP_cons] at hcount
  simp only [criacoes, encerrar]
  omega

/-- A call that goes on to another await has no more posts ahead than before. -/
lemma criacoes_chamar_encerrar {p q : Pendente} (hp : p ∈ s.pendentes)
    (hcria : q.cria = true → p.cria = true) :
    ((s.encerrar p).chamar q).criacoes ≤ s.criacoes := by
  have hencerrar := criacoes_encerrar hp
  rw [criacoes_chamar]
  by_cases hq : q.cria = true
  · rw [if_pos (hcria hq)] at hencerrar
    rw [if_pos hq]
    omega
  · rw [if_neg hq]
    omega

/-- A request that is sent. -/
lemma criacoes_mandar (s : Execucao) (req : Request) :
    (s.mandar req).criacoes = s.criacoes + if req.method = .post then 1 else 0 := by
  simp only [criacoes, mandar, List.countP_append, List.countP_singleton, decide_eq_true_eq]
  omega

/-- A request that is handled. -/
lemma Inv.criacoes_atender (h : s.Inv) {req : Request} (hreq : req ∈ s.rede) (absent : Response)
    {novo : Int} (hnovo : novo ∉ s.catalogo) :
    criacoes { s with
      catalogo := (Catalogo.answer absent novo req s.catalogo).2
      rede := s.rede.erase req } = s.criacoes := by
  have hcount := (List.perm_cons_erase hreq).countP_eq fun r : Request => r.method = .post
  rw [List.countP_cons] at hcount
  rcases answer_of_inofensivo (h.rede req hreq) absent novo s.catalogo with
    ⟨hmethod, r, -, hanswer⟩ | ⟨hmethod, hanswer⟩
  · simp only [hmethod, decide_true, if_true] at hcount
    simp only [criacoes, hanswer, AList.length_keys_insert_of_notMem r hnovo]
    omega
  · simp only [hmethod, reduceCtorEq, decide_false, Bool.false_eq_true, if_false] at hcount
    simp only [criacoes, hanswer]
    omega

/-- A valid tap of `Salvar` puts one post ahead, and nothing else does. -/
lemma Inv.criacoes_step (h : s.Inv) {s' : Execucao} {a : PassoExecucao}
    (ha : s.step a = some s') : s'.criacoes ≤ s.criacoes + if a.salva then 1 else 0 := by
  cases efeito_of_step ha with
  | @novo form hform =>
    have hsalva : PassoExecucao.salva (.salvar none form) = true := by
      simp [PassoExecucao.salva, hform]
    rw [if_pos hsalva, criacoes_chamar]
    exact Nat.add_le_add_left (by split <;> omega) _
  | @edita o form c hform ho =>
    have hsalva : PassoExecucao.salva (.salvar (some o) form) = true := by
      simp [PassoExecucao.salva, hform]
    rw [if_pos hsalva, criacoes_chamar]
    exact Nat.add_le_add_left (by split <;> omega) _
  | @uploadFeito o foto stored c hp ho => exact criacoes_chamar_encerrar hp fun _ => rfl
  | salvarFalha hp hh => exact (criacoes_encerrar hp).le.trans' (Nat.le_add_right _ _)
  | salvarLido hp hh ho => exact criacoes_chamar_encerrar hp fun _ => rfl
  | deletar ho => exact (criacoes_chamar s _).le
  | deletarFalha hp hh => exact (criacoes_encerrar hp).le.trans' (Nat.le_add_right _ _)
  | deletarLido hp hh ho => exact criacoes_chamar_encerrar hp fun hcria => by cases hcria
  | enviarFalha hp hh => exact (criacoes_encerrar hp).le.trans' (Nat.le_add_right _ _)
  | @enviar method url body stored hs hp hh =>
    have hencerrar := criacoes_encerrar hp
    have hcria : (Pendente.pedido method url body).cria = decide (method = .post) := by
      cases method <;> rfl
    simp only [hcria, decide_eq_true_eq] at hencerrar
    rw [criacoes_mandar]
    exact (Nat.le_of_eq hencerrar).trans (Nat.le_add_right _ _)
  | @atender req absent novo hreq hnovo =>
    exact (h.criacoes_atender hreq absent hnovo).le.trans (Nat.le_add_right _ _)
  | favoritar ho => exact (criacoes_chamar s _).le
  | favoritarLido hp ho => exact (criacoes_encerrar hp).le.trans' (Nat.le_add_right _ _)
  | reiniciar =>
    simp only [criacoes, List.countP_nil]
    omega
  | _ => exact Nat.le_add_right _ _

/-- **One tap, one record.**  However taps, answers and deliveries come, the server has at most one
new record for every tap of `Salvar` in a valid form. -/
theorem um_por_toque {cat : Catalogo} {col : Colecao} {as : List PassoExecucao} {t : Execucao}
    (hrun : StepRun.run step (inicio cat col) as = some t) :
    t.catalogo.keys.length ≤ cat.keys.length + as.countP PassoExecucao.salva := by
  have hcount := StepRun.run_count (p := PassoExecucao.salva)
    (I := fun s n => s.Inv ∧ s.criacoes ≤ n) ?_
    (n := cat.keys.length) ⟨inv_inicio cat col, by simp [criacoes, inicio]⟩ hrun
  · exact (Nat.le_add_left _ _).trans hcount.2
  · rintro s a s' n ⟨h, hn⟩ ha
    have hstep := h.criacoes_step ha
    exact ⟨h.step ha, hstep.trans (Nat.add_le_add_right hn _)⟩

/-- The run has one tap of `Salvar`, so it leaves at most one record. -/
theorem um_por_toque_roteiro :
    ∃ hs t, StepRun.run step (inicio ∅ ∅) (roteiro hs) = some t ∧ t.catalogo.keys.length ≤ 1 := by
  obtain ⟨hs, t, hrun⟩ := exists_run_roteiro
  exact ⟨hs, t, hrun, um_por_toque hrun⟩

/-! ## The collection -/

/-- A step writes the map of a car to the document `null`, or deletes it, or leaves the collection
alone. -/
lemma Inv.documentos_step (h : s.Inv) {s' : Execucao} {a : PassoExecucao}
    (ha : s.step a = some s') :
    s'.documentos = s.documentos ∨
      ∃ write : DocWrite, write.DeCarro ∧ s'.documentos = s.documentos.apply "null" write := by
  rcases (fora_step ha).2.1 with hsame | ⟨w, hw, hdocs⟩
  · exact Or.inl hsame
  · obtain ⟨hnull, hcarro⟩ := h.escritas w hw
    exact Or.inr ⟨w.2, hcarro, hnull ▸ hdocs⟩

/-- **One document is all the app writes.**  Every document but `null` stays as it was, the document
`null` is as it was or has the map of a car, and if the page of the favourites could list the
collection in the beginning, it always can, with at most one car more. -/
theorem so_o_documento_null {cat : Catalogo} {col : Colecao} {as : List PassoExecucao}
    {t : Execucao} (hrun : StepRun.run step (inicio cat col) as = some t) :
    (∀ k, k ≠ "null" → t.documentos.lookup k = col.lookup k) ∧
      (∀ data, t.documentos.lookup "null" = some data →
        col.lookup "null" = some data ∨ ∃ c : Carro, data = c.toMap) ∧
      ∀ cs, FavoritoService.toList col = .ok cs →
        ∃ cs', FavoritoService.toList t.documentos = .ok cs' ∧ cs'.length ≤ cs.length + 1 := by
  have hinv := StepRun.run_invariant_of_step
    (I := fun s : Execucao => s.Inv ∧
      (∀ k, k ≠ "null" → s.documentos.lookup k = col.lookup k) ∧
      ∀ data, s.documentos.lookup "null" = some data →
        col.lookup "null" = some data ∨ ∃ c : Carro, data = c.toMap)
    ?_ ⟨inv_inicio cat col, fun k _ => rfl, fun data => Or.inl⟩ hrun
  · obtain ⟨-, houtros, hnull⟩ := hinv
    refine ⟨houtros, hnull, fun cs hcs => ?_⟩
    have hdecodes : ∀ k data, t.documentos.lookup k = some data →
        ∃ c, Carro.fromJson data = .ok c := by
      intro k data hdata
      have hcol := FavoritoService.exists_toList_iff.mp ⟨cs, hcs⟩
      by_cases hk : k = "null"
      · subst hk
        rcases hnull data hdata with hold | ⟨c, rfl⟩
        · exact hcol _ data hold
        · exact ⟨c.semId, c.fromJson_toMap⟩
      · rw [houtros k hk] at hdata
        exact hcol k data hdata
    obtain ⟨cs', hcs'⟩ := FavoritoService.exists_toList_iff.mpr hdecodes
    refine ⟨cs', hcs', ?_⟩
    rw [FavoritoService.length_toList hcs', FavoritoService.length_toList hcs]
    -- The ids of the documents are those of the collection, and `null`.
    have hkeys : ∀ k ∈ t.documentos, k ∈ col.insert "null" ([] : DynMap) := by
      intro k hk
      by_cases hnullk : k = "null"
      · exact (AList.mem_insert _).mpr (Or.inl hnullk)
      · rw [← AList.lookup_isSome, houtros k hnullk, AList.lookup_isSome] at hk
        exact (AList.mem_insert _).mpr (Or.inr hk)
    exact (AList.length_keys_le_of_forall_mem hkeys).trans (AList.length_keys_insert_le _ _ _)
  · rintro s a s' ⟨hinv, houtros, hnull⟩ ha
    refine ⟨hinv.step ha, ?_⟩
    rcases hinv.documentos_step ha with hsame | ⟨write, hcarro, hdocs⟩
    · rw [hsame]
      exact ⟨houtros, hnull⟩
    · rw [hdocs]
      cases write with
      | setData data =>
        refine ⟨fun k hk => (AList.lookup_insert_ne hk).trans (houtros k hk), fun data' h => ?_⟩
        obtain rfl := Option.some.inj ((AList.lookup_insert _).symm.trans h)
        exact Or.inr hcarro
      | delete =>
        refine ⟨fun k hk => (AList.lookup_erase_ne hk).trans (houtros k hk), fun data' h => ?_⟩
        cases (AList.lookup_erase "null" s.documentos).symm.trans h

/-- After the run the page of the favourites lists at most one car. -/
theorem so_o_documento_null_roteiro :
    ∃ hs t cs, StepRun.run step (inicio ∅ ∅) (roteiro hs) = some t ∧
      FavoritoService.toList t.documentos = .ok cs ∧ cs.length ≤ 1 := by
  obtain ⟨hs, t, hrun⟩ := exists_run_roteiro
  obtain ⟨-, -, hlista⟩ := so_o_documento_null hrun
  obtain ⟨cs, hcs, hlength⟩ := hlista [] rfl
  exact ⟨hs, t, cs, hrun, hcs, hlength⟩

/-! ## The local database -/

/-- A step executes an insert statement, which adds a row, or leaves the tables alone. -/
lemma Inv.linhas_step (h : s.Inv) {s' : Execucao} {a : PassoExecucao} (ha : s.step a = some s')
    {n : ℕ} (hn : CarrosBloc.TemLinhas s.banco n) :
    CarrosBloc.TemLinhas s'.banco (n + if a.insere then 1 else 0) := by
  rcases (fora_step ha).2.2 with ⟨hsame, hinsere⟩ | ⟨gen, c, hc, hinsere, hbanco⟩
  · rw [hsame, hinsere]
    exact hn
  · obtain ⟨i, db, hsave, hlinhas⟩ := hn.save gen (h.insercoes c hc).1.id
    rw [hbanco, hsave, hinsere]
    exact hlinhas

/-- **The local tables are written and never read back.**  After every run from a fresh install the
table of the cars has a row for every insert statement executed, and still a tab without network
shows no car, whatever its tipo, and neither does the join with the favourites. -/
theorem so_grava {cat : Catalogo} {col : Colecao} {as : List PassoExecucao} {t : Execucao}
    (hrun : StepRun.run step (inicio cat col) as = some t) :
    CarroDAO.count t.banco = .ok (some (as.countP PassoExecucao.insere : ℕ)) ∧
      (∀ tipo, CarrosBloc.offline t.banco tipo = ⟨.ok [], []⟩) ∧
      FavoritoService.getCarros t.banco = .ok [] := by
  have hlinhas := StepRun.run_count (p := PassoExecucao.insere)
    (I := fun s n => s.Inv ∧ CarrosBloc.TemLinhas s.banco n) ?_
    (n := 0) ⟨inv_inicio cat col, ⟨colunasCarro, ∅⟩, rfl, rfl, rfl⟩ hrun
  · obtain ⟨hinv, hlinhas⟩ := hlinhas
    rw [Nat.zero_add] at hlinhas
    refine ⟨hlinhas.count_eq, fun tipo => ?_, hinv.banco.getCarros⟩
    rw [CarrosBloc.offline, hinv.banco.findAllByTipo]
  · rintro s a s' n ⟨h, hn⟩ ha
    exact ⟨h.step ha, h.linhas_step ha hn⟩

/-- A tab lists a car and saves it; it is stored, and not found under its tipo. -/
theorem so_grava_fusca :
    let fusca : Registro := ⟨some "Fusca", some "classicos", none, none, none, none, none⟩
    ∃ t, StepRun.run step (inicio ∅ ∅)
        [.tab (.ok ⟨200, Catalogo.bodyLista [⟨1, fusca⟩]⟩), .inserir .largest] = some t ∧
      CarroDAO.count t.banco = .ok (some 1) ∧
      CarrosBloc.offline t.banco "classicos" = ⟨.ok [], []⟩ := by
  intro fusca
  have hcarros : carrosDe (.ok ⟨200, Catalogo.bodyLista [⟨1, fusca⟩]⟩) =
      .ok [(fusca.carro 1).semId] := by
    simp only [carrosDe, Except.bind, CarrosApi.decodeCarros_bodyLista, List.map_cons, List.map_nil]
  have hrun : (StepRun.run step (inicio ∅ ∅)
      [.tab (.ok ⟨200, Catalogo.bodyLista [⟨1, fusca⟩]⟩), .inserir .largest]).isSome = true := by
    simp [StepRun.run_cons, step, inicio, alocar, hcarros]
  obtain ⟨t, ht⟩ := Option.isSome_iff_exists.mp hrun
  obtain ⟨hcount, hoffline, -⟩ := so_grava ht
  exact ⟨t, ht, hcount, hoffline "classicos"⟩

/-! ## The car page -/

end Execucao

/-- The dialog of a car without a place or without a video, for the taps that ask for them. -/
def PassoExecucao.alerta : PassoExecucao → Option Abertura
  | .mapa _ => some (.alerta "Esse carro nao possui")
  | .video _ => some (.alerta "Este carro nao possui nenhum video")
  | _ => none

namespace Execucao

/-- No car has a place or a video, so a step opens the dialog of its tap and nothing else. -/
lemma Inv.aberturas_step {s s' : Execucao} {a : PassoExecucao} (h : s.Inv)
    (ha : s.step a = some s') : s'.aberturas = s.aberturas ++ a.alerta.toList := by
  cases efeito_of_step ha with
  | @mapa o c ho =>
    have hb := h.objetos c (List.mem_of_getElem? ho)
    rw [CarroPage.onClickMapa, hb.latitude, if_neg (by simp)]
    rfl
  | @video o c ho =>
    have hb := h.objetos c (List.mem_of_getElem? ho)
    rw [CarroPage.onClickVideo, hb.urlVideo]
    rfl
  | _ => exact (List.append_nil _).symm

/-- **No map and no video.**  The button of the map and the button of the video never open anything
but a dialog: every tap shows the one that says the car has none, in the order of the taps. -/
theorem sem_mapa_nem_video {cat : Catalogo} {col : Colecao} {as : List PassoExecucao}
    {t : Execucao} (hrun : StepRun.run step (inicio cat col) as = some t) :
    t.aberturas = as.filterMap PassoExecucao.alerta := by
  have hinicio : (inicio cat col).Inv ∧
      (inicio cat col).aberturas = ([] : List PassoExecucao).filterMap PassoExecucao.alerta :=
    ⟨inv_inicio cat col, rfl⟩
  refine (StepRun.run_history
    (I := fun s before => s.Inv ∧ s.aberturas = before.filterMap PassoExecucao.alerta)
    ?_ hinicio hrun).2
  rintro s a s' before ⟨hinv, haberturas⟩ ha
  refine ⟨hinv.step ha, ?_⟩
  rw [hinv.aberturas_step ha, haberturas, List.filterMap_append]
  cases a <;> rfl

/-- A new car is saved and its map asked for; it is saved again, and its video asked for. -/
theorem sem_mapa_nem_video_roteiro :
    let form : Formulario := ⟨"Fusca", "", 0, none⟩
    ∃ t, StepRun.run step (inicio ∅ ∅)
        [.salvar none form, .mapa 0, .salvar (some 0) form, .video 0] = some t ∧
      t.aberturas =
        [.alerta "Esse carro nao possui", .alerta "Este carro nao possui nenhum video"] := by
  intro form
  obtain ⟨t, hrun⟩ : ∃ t, StepRun.run step (inicio ∅ ∅)
      [.salvar none form, .mapa 0, .salvar (some 0) form, .video 0] = some t := ⟨_, rfl⟩
  exact ⟨t, hrun, sem_mapa_nem_video hrun⟩

end Execucao

end Carros
