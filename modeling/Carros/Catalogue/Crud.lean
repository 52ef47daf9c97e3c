import Carros.Base.Keyed
import Carros.Base.StepRun
import Carros.Catalogue.CarroForm

/-!
# Editing, creating and deleting against plain CRUD

`Loja` is the app together with the server: the server catalogue and every car object the tabs have
listed so far.  `Crud` is what the user means: the same catalogue, and for every listed car the id
of the record it shows.  Both make the same user actions; a step of `Loja` happens only if the
action succeeds.

The decoder of the list drops the id, so saving a listed car posts it as a new one and deleting it
names no record.  `loja_eq_crud_iff` proves that a run of successful actions leaves the catalogue
the user means exactly when it neither edits nor deletes a listed car.
-/

namespace Carros

open Dart

/-- A user action.  `novo` is the id the server gives to a record it adds at that action. -/
inductive Acao where
  | carregar (tipo : String)
  | editar (k : ℕ) (form : Formulario) (novo : Int)
  | deletar (k : ℕ)
  | criar (form : Formulario) (novo : Int)

/-- The action neither edits nor deletes a listed car. -/
def Acao.SoCria : Acao → Prop
  | .carregar _ => True
  | .criar _ _ => True
  | .editar _ _ _ => False
  | .deletar _ => False

/-! ## The app and the server -/

/-- The server catalogue and the car objects listed so far. -/
structure Loja where
  catalogo : Catalogo
  listados : List Carro

namespace Loja

/-- A save from the form, opened with `carro`; `none` if it does not succeed. -/
def salvar (absent : Response) (stored : Option String) (cat : Catalogo) (carro : Option Carro)
    (form : Formulario) (novo : Int) : Option (Carro × Catalogo) := do
  if novo ∈ cat then none
  let saida ← CarroFormPage.onClickSalvar (Catalogo.answer absent novo) stored carro form cat
  if saida.response.ok then some (saida.carro, saida.world) else none

/-- One successful user action. -/
def step (absent : Response) (stored : Option String) (s : Loja) : Acao → Option Loja
  | .carregar tipo =>
    match CarrosApi.getCarros (Catalogo.answer absent 0) stored tipo s.catalogo with
    | (.ok carros, cat) => some ⟨cat, s.listados ++ carros⟩
    | (.error _, _) => none
  | .editar k form novo => do
    let c ← s.listados[k]?
    let (c', cat) ← salvar absent stored s.catalogo (some c) form novo
    return ⟨cat, s.listados.set k c'⟩
  | .deletar k => do
    let c ← s.listados[k]?
    let (response, _, cat) := CarroPage.deletar (Catalogo.answer absent 0) stored c s.catalogo
    if response.ok then return ⟨cat, s.listados⟩ else none
  | .criar form novo => do
    let (_, cat) ← salvar absent stored s.catalogo none form novo
    return ⟨cat, s.listados⟩

end Loja

/-! ## What the user means -/

/-- The catalogue the user means and the ids of the records listed so far. -/
structure Crud where
  catalogo : Catalogo
  ids : List Int

namespace Crud

/-- The `urlFoto` a form brings: what the upload of its photo is reported as ok with. -/
def fotoUrl (stored : Option String) (form : Formulario) : Option (Option String) := do
  let foto ← form.file
  let response := UploadApi.upload stored foto
  if response.ok then some response.result else none

/-- A record with the fields of a form. -/
def editado (stored : Option String) (form : Formulario) (r : Registro) : Registro :=
  { r with
    nome := some form.nome
    descricao := some form.descricao
    tipo := some (CarroFormPage.getTipo form.radioIndex)
    urlFoto := (fotoUrl stored form).getD r.urlFoto }

/-- The record of a new car before the form is filled in. -/
def vazio : Registro := ⟨none, none, none, none, none, none, none⟩

/-- One user action on the catalogue. -/
def step (stored : Option String) (s : Crud) : Acao → Crud
  | .carregar tipo => { s with ids := s.ids ++ (s.catalogo.listar tipo).map Sigma.fst }
  | .editar k form _ =>
    match s.ids[k]? with
    | none => s
    | some i =>
      match s.catalogo.lookup i with
      | none => s
      | some r => { s with catalogo := s.catalogo.insert i (editado stored form r) }
  | .deletar k =>
    match s.ids[k]? with
    | none => s
    | some i => { s with catalogo := s.catalogo.erase i }
  | .criar form novo => { s with catalogo := s.catalogo.insert novo (editado stored form vazio) }

/-- A list of user actions on the catalogue. -/
def steps (stored : Option String) (s : Crud) (acoes : List Acao) : Crud :=
  acoes.foldl (step stored) s

end Crud

/-! ## One step of each -/

variable {absent : Response} {stored : Option String}

/-- The upload of a photo changes nothing but the URL of the photo. -/
lemma Crud.registro_enviarFoto (carro : Option Carro) (form : Formulario) :
    (CarrosApi.enviarFoto stored (CarroFormPage.preencher carro form) form.file).registro =
      editado stored form (carro.getD {}).registro := by
  unfold CarrosApi.enviarFoto editado fotoUrl
  cases form.file with
  | none => rfl
  | some foto =>
    cases h : (UploadApi.upload stored foto).ok <;>
      simp [h, CarroFormPage.preencher, Carro.registro]

/-- With a session, a save of a car without an id from a valid form adds the record of what the form
filled in, and succeeds if the new id is an `int`. -/
lemma Loja.salvar_novo {hs : List (String × String)} (hh : headers stored = .ok hs)
    {cat : Catalogo} {carro : Option Carro} {form : Formulario} {novo : Int}
    (hid : (carro.getD {}).id = none) (hnovo : novo ∉ cat)
    (hnome : CarroFormPage.validateNome form.nome = none) :
    Loja.salvar absent stored cat carro form novo =
      if IsInt64 novo then
        some (CarrosApi.enviarFoto stored (CarroFormPage.preencher carro form) form.file,
          cat.insert novo (Crud.editado stored form (carro.getD {}).registro))
      else none := by
  have hpre : (CarroFormPage.preencher carro form).id = none := hid
  simp [Loja.salvar, CarroFormPage.onClickSalvar, hnovo, hnome,
    CarrosApi.save_answer_novo hh absent novo hpre, Crud.registro_enviarFoto]

/-- A successful save of a car without an id adds the record of what the form filled in. -/
lemma Loja.salvar_eq_some {cat cat' : Catalogo} {carro : Option Carro} {form : Formulario}
    {novo : Int} {c' : Carro} (hid : (carro.getD {}).id = none)
    (h : Loja.salvar absent stored cat carro form novo = some (c', cat')) :
    novo ∉ cat ∧ c'.id = none ∧
      cat' = cat.insert novo (Crud.editado stored form (carro.getD {}).registro) := by
  by_cases hnovo : novo ∈ cat
  · simp [Loja.salvar, hnovo] at h
  by_cases hnome : (CarroFormPage.validateNome form.nome).isSome
  · simp [Loja.salvar, CarroFormPage.onClickSalvar, hnome] at h
  cases hh : headers stored with
  | error e =>
    simp [Loja.salvar, CarroFormPage.onClickSalvar, hnovo, hnome,
      CarrosApi.save_of_headers_error hh] at h
  | ok hs =>
    rw [Loja.salvar_novo hh hid hnovo (by simpa using hnome)] at h
    split_ifs at h
    obtain ⟨rfl, rfl⟩ := Prod.mk.inj (Option.some.inj h)
    exact ⟨hnovo, (CarrosApi.id_enviarFoto _ _ _).trans hid, rfl⟩

/-- With a session, a tab loads the cars of its tipo. -/
lemma Loja.step_carregar {hs : List (String × String)} (hh : headers stored = .ok hs) (s : Loja)
    (tipo : String) : Loja.step absent stored s (.carregar tipo) =
      some ⟨s.catalogo, s.listados ++
        (s.catalogo.listar tipo).map fun e => (e.2.carro e.1).semId⟩ := by
  simp only [Loja.step, CarrosApi.getCarros_answer hh]

/-- With a session, a valid form creates its record. -/
lemma Loja.step_criar {hs : List (String × String)} (hh : headers stored = .ok hs) {s : Loja}
    {form : Formulario} {novo : Int} (hint : IsInt64 novo) (hnovo : novo ∉ s.catalogo)
    (hnome : CarroFormPage.validateNome form.nome = none) :
    Loja.step absent stored s (.criar form novo) =
      some ⟨s.catalogo.insert novo (Crud.editado stored form Crud.vazio), s.listados⟩ := by
  have hid : ((none : Option Carro).getD {}).id = none := rfl
  simp only [Loja.step, Loja.salvar_novo hh hid hnovo hnome, if_pos hint]
  rfl

/-- With a session, a valid form of a listed car without an id adds a record. -/
lemma Loja.step_editar {hs : List (String × String)} (hh : headers stored = .ok hs) {s : Loja}
    {k : ℕ} {c : Carro} {form : Formulario} {novo : Int} (hc : s.listados[k]? = some c)
    (hid : c.id = none) (hint : IsInt64 novo) (hnovo : novo ∉ s.catalogo)
    (hnome : CarroFormPage.validateNome form.nome = none) :
    ∃ c', Loja.step absent stored s (.editar k form novo) =
      some ⟨s.catalogo.insert novo (Crud.editado stored form c.registro), s.listados.set k c'⟩ := by
  have hid' : ((some c).getD {}).id = none := hid
  simp only [Loja.step, hc, Option.bind_eq_bind, Option.bind_some,
    Loja.salvar_novo hh hid' hnovo hnome, if_pos hint]
  exact ⟨_, rfl⟩

/-- No listed car has an id. -/
def Loja.SemId (s : Loja) : Prop := ∀ c ∈ s.listados, c.id = none

/-- What a successful action does when no listed car has an id. -/
lemma Loja.step_eq_some {s s' : Loja} (hs : s.SemId) {a : Acao}
    (h : Loja.step absent stored s a = some s') :
    s'.SemId ∧
      match a with
      | .carregar tipo =>
        s'.catalogo = s.catalogo ∧
          s'.listados.length = s.listados.length + (s.catalogo.listar tipo).length
      | .editar _ _ novo => novo ∉ s.catalogo ∧ ∃ r, s'.catalogo = s.catalogo.insert novo r
      | .deletar k => s'.catalogo = s.catalogo ∧ k < s.listados.length
      | .criar form novo =>
        novo ∉ s.catalogo ∧
          s' = ⟨s.catalogo.insert novo (Crud.editado stored form Crud.vazio), s.listados⟩ := by
  cases a with
  | carregar tipo =>
    cases hh : headers stored with
    | error e => simp [Loja.step, CarrosApi.getCarros_of_headers_error hh] at h
    | ok hs' =>
      rw [Loja.step_carregar hh] at h
      obtain rfl := Option.some.inj h
      refine ⟨fun c hc => ?_, rfl, by simp⟩
      rcases List.mem_append.mp hc with hc | hc
      · exact hs c hc
      · obtain ⟨e, -, rfl⟩ := List.mem_map.mp hc
        rfl
  | editar k form novo =>
    simp only [Loja.step, Option.bind_eq_bind, Option.bind_eq_some_iff, Option.pure_def] at h
    obtain ⟨c, hc, ⟨c', cat⟩, hsalvar, hs'⟩ := h
    obtain rfl := Option.some.inj hs'
    have hcid : ((some c).getD {}).id = none := hs c (List.mem_of_getElem? hc)
    obtain ⟨hnovo, hid, rfl⟩ := Loja.salvar_eq_some hcid hsalvar
    refine ⟨fun d hd => ?_, hnovo, _, rfl⟩
    rcases List.mem_or_eq_of_mem_set hd with hd | rfl
    · exact hs d hd
    · exact hid
  | deletar k =>
    simp only [Loja.step, Option.bind_eq_bind, Option.bind_eq_some_iff] at h
    obtain ⟨c, hc, hs'⟩ := h
    have hcid : c.id = none := hs c (List.mem_of_getElem? hc)
    have hcat : (CarrosApi.delete (Catalogo.answer absent 0) stored c s.catalogo).2 = s.catalogo :=
      CarrosApi.delete_answer_null absent 0 hcid s.catalogo
    simp only [CarroPage.deletar, hcat] at hs'
    split_ifs at hs'
    obtain rfl := Option.some.inj hs'
    exact ⟨hs, rfl, (List.getElem?_eq_some_iff.mp hc).1⟩
  | criar form novo =>
    simp only [Loja.step, Option.bind_eq_bind, Option.bind_eq_some_iff, Option.pure_def] at h
    obtain ⟨⟨c', cat⟩, hsalvar, hs'⟩ := h
    obtain rfl := Option.some.inj hs'
    have hid : ((none : Option Carro).getD {}).id = none := rfl
    obtain ⟨hnovo, -, rfl⟩ := Loja.salvar_eq_some hid hsalvar
    exact ⟨hs, hnovo, rfl⟩

/-- An edit leaves the ids of the catalogue as they are. -/
lemma Crud.mem_step_editar {s : Crud} {k : ℕ} {form : Formulario} {novo i : Int} :
    i ∈ (Crud.step stored s (.editar k form novo)).catalogo ↔ i ∈ s.catalogo := by
  simp only [Crud.step]
  cases s.ids[k]? with
  | none => rfl
  | some j =>
    cases hj : s.catalogo.lookup j with
    | none => simp [hj]
    | some r =>
      have hmem : j ∈ s.catalogo := AList.lookup_isSome.mp (by simp [hj])
      simp only [hj, AList.mem_insert]
      exact ⟨fun h => h.elim (fun h => h ▸ hmem) id, Or.inr⟩

/-! ## Runs -/

/-- The catalogue is the one the user means, and every listed car stands for one of its records. -/
structure Loja.Iguais (l : Loja) (s : Crud) : Prop where
  semId : l.SemId
  catalogo : l.catalogo = s.catalogo
  tamanho : l.listados.length = s.ids.length
  existe : ∀ i ∈ s.ids, i ∈ s.catalogo

/-- The server has every record the user means and at least one more. -/
structure Loja.Adiante (l : Loja) (s : Crud) : Prop where
  semId : l.SemId
  contido : ∀ i ∈ s.catalogo, i ∈ l.catalogo
  menor : s.catalogo.keys.length < l.catalogo.keys.length

/-- Loading a tab and creating a car keep the catalogue the one the user means. -/
lemma Loja.Iguais.step {l l' : Loja} {s : Crud} (hls : l.Iguais s) {a : Acao} (ha : a.SoCria)
    (h : Loja.step absent stored l a = some l') : l'.Iguais (Crud.step stored s a) := by
  obtain ⟨hsemId, hl⟩ := Loja.step_eq_some hls.semId h
  cases a with
  | editar k form novo => exact ha.elim
  | deletar k => exact ha.elim
  | carregar tipo =>
    refine ⟨hsemId, hl.1.trans hls.catalogo, ?_, fun i hi => ?_⟩
    · simp [Crud.step, hl.2, hls.catalogo, hls.tamanho]
    · rcases List.mem_append.mp hi with hi | hi
      · exact hls.existe i hi
      · obtain ⟨e, he, rfl⟩ := List.mem_map.mp hi
        exact AList.mem_keys.mpr (List.mem_map_of_mem (List.mem_of_mem_filter he))
  | criar form novo =>
    obtain ⟨-, rfl⟩ := hl
    refine ⟨hsemId, by simp [Crud.step, hls.catalogo], hls.tamanho, fun i hi => ?_⟩
    exact (AList.mem_insert _).mpr (Or.inr (hls.existe i hi))

/-- Editing or deleting a listed car leaves the server with a record too many. -/
lemma Loja.Iguais.adiante {l l' : Loja} {s : Crud} (hls : l.Iguais s) {a : Acao} (ha : ¬ a.SoCria)
    (h : Loja.step absent stored l a = some l') : l'.Adiante (Crud.step stored s a) := by
  obtain ⟨hsemId, hl⟩ := Loja.step_eq_some hls.semId h
  cases a with
  | carregar tipo => exact absurd trivial ha
  | criar form novo => exact absurd trivial ha
  | editar k form novo =>
    obtain ⟨hnovo, r, hl'⟩ := hl
    refine ⟨hsemId, fun i hi => ?_, ?_⟩
    · rw [hl', AList.mem_insert, hls.catalogo]
      exact Or.inr (Crud.mem_step_editar.mp hi)
    · rw [hl', AList.length_keys_insert_of_notMem r hnovo, hls.catalogo,
        AList.length_keys_eq_of_forall_mem_iff fun i => Crud.mem_step_editar]
      exact Nat.lt_succ_self _
  | deletar k =>
    obtain ⟨i, hi⟩ : ∃ i, s.ids[k]? = some i :=
      ⟨_, List.getElem?_eq_getElem (hls.tamanho ▸ hl.2)⟩
    have hmem : i ∈ s.catalogo := hls.existe i (List.mem_of_getElem? hi)
    refine ⟨hsemId, fun j hj => ?_, ?_⟩
    · simp only [Crud.step, hi, AList.mem_erase] at hj
      rw [hl.1, hls.catalogo]
      exact hj.2
    · simp only [Crud.step, hi, hl.1, hls.catalogo]
      exact AList.length_keys_erase_lt hmem

/-- No action brings the two back together. -/
lemma Loja.Adiante.step {l l' : Loja} {s : Crud} (hls : l.Adiante s) {a : Acao}
    (h : Loja.step absent stored l a = some l') : l'.Adiante (Crud.step stored s a) := by
  obtain ⟨hsemId, hl⟩ := Loja.step_eq_some hls.semId h
  cases a with
  | carregar tipo =>
    exact ⟨hsemId, fun i hi => hl.1 ▸ hls.contido i hi, by rw [hl.1]; exact hls.menor⟩
  | editar k form novo =>
    obtain ⟨hnovo, r, hl'⟩ := hl
    refine ⟨hsemId, fun i hi => ?_, ?_⟩
    · rw [hl', AList.mem_insert]
      exact Or.inr (hls.contido i (Crud.mem_step_editar.mp hi))
    · rw [hl', AList.length_keys_insert_of_notMem r hnovo,
        AList.length_keys_eq_of_forall_mem_iff fun i => Crud.mem_step_editar]
      exact Nat.lt_succ_of_lt hls.menor
  | deletar k =>
    have hsub : ∀ i ∈ (Crud.step stored s (.deletar k)).catalogo, i ∈ s.catalogo := by
      intro i hi
      simp only [Crud.step] at hi
      split at hi
      · exact hi
      · exact (AList.mem_erase.mp hi).2
    refine ⟨hsemId, fun i hi => hl.1 ▸ hls.contido i (hsub i hi), ?_⟩
    rw [hl.1]
    exact Nat.lt_of_le_of_lt (AList.length_keys_le_of_forall_mem hsub) hls.menor
  | criar form novo =>
    obtain ⟨hnovo, rfl⟩ := hl
    have hnovo' : novo ∉ s.catalogo := fun hmem => hnovo (hls.contido novo hmem)
    refine ⟨hsemId, fun i hi => ?_, ?_⟩
    · rcases (AList.mem_insert _).mp hi with rfl | hi
      · exact (AList.mem_insert _).mpr (Or.inl rfl)
      · exact (AList.mem_insert _).mpr (Or.inr (hls.contido i hi))
    · simp only [Crud.step]
      rw [AList.length_keys_insert_of_notMem _ hnovo, AList.length_keys_insert_of_notMem _ hnovo']
      exact Nat.succ_lt_succ hls.menor

/-- Once the server has a record too many, it has one after every further run. -/
lemma Loja.Adiante.run {l l' : Loja} {s : Crud} (hls : l.Adiante s) {acoes : List Acao}
    (h : StepRun.run (Loja.step absent stored) l acoes = some l') :
    l'.Adiante (Crud.steps stored s acoes) := by
  induction acoes generalizing l s with
  | nil =>
    obtain rfl : l = l' := by simpa using h
    exact hls
  | cons a acoes ih =>
    obtain ⟨l₁, hl₁, hrest⟩ := StepRun.run_cons_eq_some.mp h
    exact ih (hls.step hl₁) hrest

/-- A run keeps the catalogue the user means as long as it only loads and creates, and leaves the
server with a record too many as soon as it edits or deletes. -/
lemma Loja.Iguais.run {l l' : Loja} {s : Crud} (hls : l.Iguais s) {acoes : List Acao}
    (h : StepRun.run (Loja.step absent stored) l acoes = some l') :
    (∀ a ∈ acoes, a.SoCria) ∧ l'.Iguais (Crud.steps stored s acoes) ∨
      (¬ ∀ a ∈ acoes, a.SoCria) ∧ l'.Adiante (Crud.steps stored s acoes) := by
  induction acoes generalizing l s with
  | nil =>
    obtain rfl : l = l' := by simpa using h
    exact Or.inl ⟨by simp, hls⟩
  | cons a acoes ih =>
    obtain ⟨l₁, hl₁, hrest⟩ := StepRun.run_cons_eq_some.mp h
    by_cases ha : a.SoCria
    · rcases ih (hls.step ha hl₁) hrest with ⟨hall, heq⟩ | ⟨hall, had⟩
      · exact Or.inl ⟨List.forall_mem_cons.mpr ⟨ha, hall⟩, heq⟩
      · exact Or.inr ⟨fun hc => hall (List.forall_mem_cons.mp hc).2, had⟩
    · exact Or.inr ⟨fun hc => ha (List.forall_mem_cons.mp hc).1, (hls.adiante ha hl₁).run hrest⟩

/-- **The app against CRUD.**  After a run of successful user actions, from any catalogue and with
nothing listed yet, the server catalogue is the one the user means if and only if the run neither
edits nor deletes a listed car. -/
theorem loja_eq_crud_iff (absent : Response) (stored : Option String) (cat : Catalogo)
    (acoes : List Acao) (l : Loja)
    (h : StepRun.run (Loja.step absent stored) ⟨cat, []⟩ acoes = some l) :
    (∀ i, l.catalogo.lookup i = (Crud.steps stored ⟨cat, []⟩ acoes).catalogo.lookup i) ↔
      ∀ a ∈ acoes, a.SoCria := by
  have hinit : Loja.Iguais ⟨cat, []⟩ ⟨cat, []⟩ :=
    ⟨fun c hc => absurd hc List.not_mem_nil, rfl, rfl, fun i hi => absurd hi List.not_mem_nil⟩
  rcases hinit.run h with ⟨hall, heq⟩ | ⟨hall, had⟩
  · exact ⟨fun _ => hall, fun _ i => by rw [heq.catalogo]⟩
  · constructor
    · intro hlookup
      have hsize := AList.length_keys_eq_of_forall_mem_iff (AList.mem_iff_of_lookup_eq hlookup)
      exact absurd hsize (Nat.ne_of_gt had.menor)
    · intro hc
      exact absurd hc hall

/-- Loading a tab, creating a car and loading its tab leaves the catalogue the user means. -/
theorem loja_eq_crud_criar :
    let stored := some "\x7b\"roles\":[]\x7d"
    let acoes : List Acao :=
      [.carregar "luxo", .criar ⟨"Fusca", "1968", 0, none⟩ 7, .carregar "classicos"]
    ∃ l, StepRun.run (Loja.step ⟨404, ""⟩ stored) ⟨∅, []⟩ acoes = some l ∧
      ∀ i, l.catalogo.lookup i = (Crud.steps stored ⟨∅, []⟩ acoes).catalogo.lookup i := by
  intro stored acoes
  obtain ⟨hs, hh⟩ := exists_headers_semRoles
  obtain ⟨l, hl⟩ : ∃ l, StepRun.run (Loja.step ⟨404, ""⟩ stored) ⟨∅, []⟩ acoes = some l := by
    rw [StepRun.run_cons_of_step (Loja.step_carregar hh _ _),
      StepRun.run_cons_of_step (Loja.step_criar hh (by decide) (AList.notMem_empty _) rfl),
      StepRun.run_cons_of_step (Loja.step_carregar hh _ _)]
    exact ⟨_, rfl⟩
  have hcria : ∀ a ∈ acoes, a.SoCria := by simp [acoes, Acao.SoCria]
  exact ⟨l, hl, (loja_eq_crud_iff _ _ _ _ l hl).mpr hcria⟩

/-- Editing the one car of a tab leaves its record as it was and adds a second one. -/
theorem loja_editar_listado_fails :
    let stored := some "\x7b\"roles\":[]\x7d"
    let cat : Catalogo :=
      AList.singleton 1 ⟨some "Fusca", some "classicos", none, none, none, some "1.5", some "2.5"⟩
    let acoes : List Acao := [.carregar "classicos", .editar 0 ⟨"Fusca", "1968", 0, none⟩ 2]
    ∃ l, StepRun.run (Loja.step ⟨404, ""⟩ stored) ⟨cat, []⟩ acoes = some l ∧
      ¬ ∀ i, l.catalogo.lookup i = (Crud.steps stored ⟨cat, []⟩ acoes).catalogo.lookup i := by
  intro stored cat acoes
  obtain ⟨hs, hh⟩ := exists_headers_semRoles
  let fusca : Carro := { nome := some "Fusca" }
  have hlista : ((cat.listar "classicos").map fun e => (e.2.carro e.1).semId) = [fusca] := by
    decide
  have hcarrega : Loja.step ⟨404, ""⟩ stored ⟨cat, []⟩ (.carregar "classicos") =
      some ⟨cat, [fusca]⟩ := by
    rw [Loja.step_carregar hh, hlista, List.nil_append]
  have hnovo : (2 : Int) ∉ cat := by decide
  obtain ⟨c, hedita⟩ : ∃ c, Loja.step ⟨404, ""⟩ stored ⟨cat, [fusca]⟩
      (.editar 0 ⟨"Fusca", "1968", 0, none⟩ 2) =
        some ⟨cat.insert 2 (Crud.editado stored ⟨"Fusca", "1968", 0, none⟩ fusca.registro), [c]⟩ :=
    Loja.step_editar hh rfl rfl (by decide) hnovo rfl
  have hrun := (StepRun.run_cons_of_step hcarrega _).trans (StepRun.run_cons_of_step hedita [])
  refine ⟨_, hrun, fun hall => ?_⟩
  have hcrud : (Crud.steps stored ⟨cat, []⟩ acoes).catalogo.lookup 2 = none := by decide
  have hlookup := (hall 2).trans hcrud
  rw [AList.lookup_insert] at hlookup
  cases hlookup

end Carros
