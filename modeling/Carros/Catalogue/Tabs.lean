import Carros.Base.StepRun
import Carros.Catalogue.CarroForm
import Carros.Local.CarrosBloc

/-!
# Tabs and the event bus

The mounted `CarrosPage`s of `pages/carros/carros_page.dart`, each subscribed to the `EventBus`,
and the writes of `CarroFormPage` and `CarroPage`, which send a `CarroEvent` with one tipo.  A tab
fetches when it is mounted, when it is pulled, and when an event carries its tipo.

The form writes the new tipo into the car before it sends the event, so the event of an edit that
changes the tipo says nothing about the old one.  `tabs_refreshed` proves that this is the only way
for a tab to miss a write, and that without it every tab without a pending fetch shows the current
list.
-/

namespace Carros

open Dart

/-- What a fetch comes to. -/
abbrev FetchEvent := Except DartError (List Carro)

/-- A mounted `CarrosPage`: its tipo, the last event of its bloc, and its pending fetches, oldest
first, each with what the server answered once it has. -/
structure Tab where
  tipo : String
  mostrada : Option FetchEvent
  pendentes : List (Option FetchEvent)

namespace Tab

/-- The tab calls `fetch`. -/
def fetch (t : Tab) : Tab := { t with pendentes := t.pendentes ++ [none] }

/-- `initState`. -/
def initState (tipo : String) : Tab := fetch ⟨tipo, none, []⟩

/-- The listener of the event bus. -/
def listen (carroEvent : CarroEvent) (t : Tab) : Tab :=
  if carroEvent.tipo = some t.tipo then t.fetch else t

/-- The server answers pending fetch `j` with `event`. -/
def responder (t : Tab) (j : ℕ) (event : FetchEvent) : Option Tab :=
  match t.pendentes[j]? with
  | some none => some { t with pendentes := t.pendentes.set j (some event) }
  | _ => none

/-- The oldest pending fetch completes, once it was answered. -/
def completar (t : Tab) : Option Tab :=
  match t.pendentes with
  | some event :: pendentes => some { t with mostrada := some event, pendentes }
  | _ => none

end Tab

/-- The record a car object stands for: it carries the id and the tipo of that record. -/
def Catalogo.registroDe (cat : Catalogo) (c : Carro) : Option Registro := do
  let i ← c.id
  let r ← cat.lookup i
  if c.tipo = r.tipo then some r else none

/-- What happens: a tab is mounted or pulled, the server answers a fetch, a fetch completes, or a
car is created, edited or deleted. -/
inductive TabPasso where
  | montar (tipo : String)
  | puxar (k : ℕ)
  | responder (k j : ℕ)
  | completar (k : ℕ)
  | criar (form : Formulario) (novo : Int)
  | editar (c : Carro) (form : Formulario)
  | deletar (c : Carro)

/-- The server and the mounted tabs. -/
structure Tabs where
  catalogo : Catalogo
  tabs : List Tab

namespace Tabs

/-- The tabs after a write that sent `evento` and left the server with `cat`. -/
def sendEvent (s : Tabs) (evento : Option CarroEvent) (cat : Catalogo) : Tabs :=
  match evento with
  | none => ⟨cat, s.tabs⟩
  | some e => ⟨cat, s.tabs.map (Tab.listen e)⟩

/-- A save from the form, opened with `carro`; `none` if it does not succeed. -/
def salvar (absent : Response) (stored : Option String) (novo : Int) (s : Tabs)
    (carro : Option Carro) (form : Formulario) : Option Tabs := do
  let saida ← CarroFormPage.onClickSalvar (Catalogo.answer absent novo) stored carro form s.catalogo
  if saida.response.ok then some (s.sendEvent saida.evento saida.world) else none

/-- One step; a write happens only if it succeeds, and only on a car that stands for a record. -/
def step (absent : Response) (stored : Option String) (s : Tabs) : TabPasso → Option Tabs
  | .montar tipo => some { s with tabs := s.tabs ++ [.initState tipo] }
  | .puxar k => do
    let t ← s.tabs[k]?
    return { s with tabs := s.tabs.set k t.fetch }
  | .responder k j => do
    let t ← s.tabs[k]?
    let carros := (CarrosApi.getCarros (Catalogo.answer absent 0) stored t.tipo s.catalogo).1
    let t' ← t.responder j (CarrosBloc.online carros).event
    return { s with tabs := s.tabs.set k t' }
  | .completar k => do
    let t ← s.tabs[k]?
    let t' ← t.completar
    return { s with tabs := s.tabs.set k t' }
  | .criar form novo => if novo ∈ s.catalogo then none else s.salvar absent stored novo none form
  | .editar c form => do
    let _ ← s.catalogo.registroDe c
    s.salvar absent stored 0 (some c) form
  | .deletar c => do
    let _ ← s.catalogo.registroDe c
    let (response, evento, cat) := CarroPage.deletar (Catalogo.answer absent 0) stored c s.catalogo
    if response.ok then some (s.sendEvent evento cat) else none

/-- Every mounted tab whose server list the step changed calls `fetch`. -/
def Avisa (s s' : Tabs) : Prop :=
  ∀ (k : ℕ) (t : Tab), s.tabs[k]? = some t →
    s'.catalogo.listar t.tipo ≠ s.catalogo.listar t.tipo → s'.tabs[k]? = some t.fetch

/-- The step does not edit the tipo of a car whose old tipo has a mounted tab. -/
def MantemTipo (s : Tabs) : TabPasso → Prop
  | .editar c form => c.tipo ≠ some (CarroFormPage.getTipo form.radioIndex) →
      ∀ t ∈ s.tabs, c.tipo ≠ some t.tipo
  | _ => True

/-- What a tab of a tipo shows of the current server list. -/
def atual (cat : Catalogo) (tipo : String) : FetchEvent :=
  .ok ((cat.listar tipo).map fun e => (e.2.carro e.1).semId)

end Tabs

/-! ## What the writes do -/

section Writes

variable {absent : Response} {stored : Option String} {hs : List (String × String)}

/-- The record a car stands for is the one with its id and tipo. -/
lemma Catalogo.registroDe_eq_some {cat : Catalogo} {c : Carro} {r : Registro} :
    cat.registroDe c = some r ↔ ∃ i, c.id = some i ∧ cat.lookup i = some r ∧ c.tipo = r.tipo := by
  simp only [registroDe, Option.bind_eq_bind, Option.bind_eq_some_iff]
  constructor
  · rintro ⟨i, hi, r', hr', h⟩
    split_ifs at h with htipo
    obtain rfl := Option.some.inj h
    exact ⟨i, hi, hr', htipo⟩
  · rintro ⟨i, hi, hr, htipo⟩
    exact ⟨i, hi, r, hr, by simp [htipo]⟩

/-- A write of a record of tipo `tipo` under `i`, or the removal of the record under `i`, whose
event carries `tipo`. -/
structure Tabs.Escreve (s s' : Tabs) (i : Int) (tipo : Option String) : Prop where
  tabs : ∃ acao, s'.tabs = s.tabs.map (Tab.listen ⟨acao, tipo⟩)
  catalogo : (∃ r, r.tipo = tipo ∧ s'.catalogo = s.catalogo.insert i r) ∨
    s'.catalogo = s.catalogo.erase i ∧ ∀ r, s.catalogo.lookup i = some r → r.tipo = tipo

/-- With a session, a valid form of a new car, or of a car with the id of a record, saves it and
tells the tabs of its tipo, if the id is an `int`. -/
lemma Tabs.salvar_eq (hh : headers stored = .ok hs) {s : Tabs} {carro : Option Carro}
    {form : Formulario} {novo i : Int}
    (hid : (carro.getD {}).id = none ∧ i = novo ∨ (carro.getD {}).id = some i ∧ i ∈ s.catalogo)
    (hnome : CarroFormPage.validateNome form.nome = none) :
    s.salvar absent stored novo carro form =
      let c := CarrosApi.enviarFoto stored (CarroFormPage.preencher carro form) form.file
      if IsInt64 i then
        some (s.sendEvent (some ⟨"Carro Salvado", some (CarroFormPage.getTipo form.radioIndex)⟩)
          (s.catalogo.insert i c.registro))
      else none := by
  set c := CarroFormPage.preencher carro form with hc
  have hcid : c.id = (carro.getD {}).id := rfl
  have hctipo : c.tipo = some (CarroFormPage.getTipo form.radioIndex) := rfl
  have hsave : CarrosApi.save (Catalogo.answer absent novo) stored c form.file s.catalogo =
      (CarrosApi.salvo i, CarrosApi.enviarFoto stored c form.file,
        s.catalogo.insert i (CarrosApi.enviarFoto stored c form.file).registro) := by
    rcases hid with ⟨hnone, rfl⟩ | ⟨hsome, hi⟩
    · exact CarrosApi.save_answer_novo hh absent i (hcid.trans hnone) _ _
    · exact CarrosApi.save_answer_existente hh absent novo (hcid.trans hsome) _ hi
  by_cases hint : IsInt64 i <;>
    simp [salvar, CarroFormPage.onClickSalvar, hnome, ← hc, hsave, hctipo, hint]

/-- A successful save of a new car, or of a car with the id of a record. -/
lemma Tabs.salvar_eq_some (hh : headers stored = .ok hs) {s s' : Tabs} {carro : Option Carro}
    {form : Formulario} {novo i : Int}
    (hid : (carro.getD {}).id = none ∧ i = novo ∨ (carro.getD {}).id = some i ∧ i ∈ s.catalogo)
    (h : s.salvar absent stored novo carro form = some s') :
    s.Escreve s' i (some (CarroFormPage.getTipo form.radioIndex)) := by
  by_cases hnome : (CarroFormPage.validateNome form.nome).isSome
  · simp [salvar, CarroFormPage.onClickSalvar, hnome] at h
  rw [Tabs.salvar_eq hh hid (by simpa using hnome)] at h
  dsimp only at h
  split_ifs at h
  obtain rfl := Option.some.inj h
  exact ⟨⟨_, rfl⟩, Or.inl ⟨_, CarrosApi.tipo_enviarFoto stored _ form.file, rfl⟩⟩

/-- With a session, a pending fetch is answered with the list of the moment. -/
lemma Tabs.step_responder (hh : headers stored = .ok hs) (s : Tabs) (k j : ℕ) :
    Tabs.step absent stored s (.responder k j) = (do
      let t ← s.tabs[k]?
      let t' ← t.responder j (atual s.catalogo t.tipo)
      return { s with tabs := s.tabs.set k t' }) := by
  simp only [step, CarrosApi.getCarros_answer hh, CarrosBloc.online_ok]
  rfl

/-- With a session, a valid form creates its record. -/
lemma Tabs.step_criar (hh : headers stored = .ok hs) {s : Tabs} {form : Formulario} {novo : Int}
    (hint : IsInt64 novo) (hnovo : novo ∉ s.catalogo)
    (hnome : CarroFormPage.validateNome form.nome = none) :
    ∃ r, Tabs.step absent stored s (.criar form novo) = some (s.sendEvent
      (some ⟨"Carro Salvado", some (CarroFormPage.getTipo form.radioIndex)⟩)
        (s.catalogo.insert novo r)) := by
  rw [step, if_neg hnovo, Tabs.salvar_eq hh (Or.inl ⟨rfl, rfl⟩) hnome]
  dsimp only
  rw [if_pos hint]
  exact ⟨_, rfl⟩

/-- With a session, a valid form of a car that stands for a record writes that record. -/
lemma Tabs.step_editar (hh : headers stored = .ok hs) {s : Tabs} {c : Carro} {r : Registro}
    {form : Formulario} {i : Int} (hr : s.catalogo.registroDe c = some r) (hi : c.id = some i)
    (hint : IsInt64 i) (hnome : CarroFormPage.validateNome form.nome = none) :
    ∃ r', Tabs.step absent stored s (.editar c form) = some (s.sendEvent
      (some ⟨"Carro Salvado", some (CarroFormPage.getTipo form.radioIndex)⟩)
        (s.catalogo.insert i r')) ∧ r'.tipo = some (CarroFormPage.getTipo form.radioIndex) := by
  obtain ⟨i', hi', hlookup, -⟩ := Catalogo.registroDe_eq_some.mp hr
  obtain rfl := Option.some.inj (hi'.symm.trans hi)
  have hmem : i' ∈ s.catalogo := AList.lookup_isSome.mp (by simp [hlookup])
  have hid : ((some c).getD {}).id = some i' := hi
  rw [step, hr, Option.bind_eq_bind, Option.bind_some, Tabs.salvar_eq hh (Or.inr ⟨hid, hmem⟩) hnome]
  dsimp only
  rw [if_pos hint]
  exact ⟨_, rfl, CarrosApi.tipo_enviarFoto stored _ form.file⟩

/-- A tab calls `fetch`, has a pending fetch answered with `event`, or sees its oldest one
complete. -/
def Tab.Muda (event : FetchEvent) (t t' : Tab) : Prop :=
  t' = t.fetch ∨ (∃ j, t.responder j event = some t') ∨ t.completar = some t'

/-- What a step does.  If it writes nothing, it mounts a tab or changes one.  If it writes, the
event carries the tipo of the old record, if there is one, unless the step is an edit. -/
lemma Tabs.step_cases (hh : headers stored = .ok hs) {s s' : Tabs} {p : TabPasso}
    (h : Tabs.step absent stored s p = some s') :
    (s.MantemTipo p ∧ s'.catalogo = s.catalogo ∧
      ((∃ tipo, s'.tabs = s.tabs ++ [.initState tipo]) ∨
        ∃ k t t', s.tabs[k]? = some t ∧ t.Muda (atual s.catalogo t.tipo) t' ∧
          s'.tabs = s.tabs.set k t')) ∨
      ∃ i tipo, s.Escreve s' i tipo ∧
        ((∀ r, s.catalogo.lookup i = some r → r.tipo = tipo) ∧ s.MantemTipo p ∨
          ∃ c form r, p = .editar c form ∧ s.catalogo.lookup i = some r ∧ c.tipo = r.tipo ∧
            tipo = some (CarroFormPage.getTipo form.radioIndex)) := by
  cases p with
  | montar tipo =>
    obtain rfl := Option.some.inj h
    exact Or.inl ⟨trivial, rfl, Or.inl ⟨tipo, rfl⟩⟩
  | puxar k =>
    simp only [step, Option.bind_eq_bind, Option.bind_eq_some_iff, Option.pure_def] at h
    obtain ⟨t, hk, hs'⟩ := h
    obtain rfl := Option.some.inj hs'
    exact Or.inl ⟨trivial, rfl, Or.inr ⟨k, t, _, hk, Or.inl rfl, rfl⟩⟩
  | responder k j =>
    simp only [step_responder hh, Option.bind_eq_bind, Option.bind_eq_some_iff,
      Option.pure_def] at h
    obtain ⟨t, hk, t', ht', hs'⟩ := h
    obtain rfl := Option.some.inj hs'
    exact Or.inl ⟨trivial, rfl, Or.inr ⟨k, t, t', hk, Or.inr (Or.inl ⟨j, ht'⟩), rfl⟩⟩
  | completar k =>
    simp only [step, Option.bind_eq_bind, Option.bind_eq_some_iff, Option.pure_def] at h
    obtain ⟨t, hk, t', ht', hs'⟩ := h
    obtain rfl := Option.some.inj hs'
    exact Or.inl ⟨trivial, rfl, Or.inr ⟨k, t, t', hk, Or.inr (Or.inr ht'), rfl⟩⟩
  | criar form novo =>
    simp only [step] at h
    split_ifs at h with hnovo
    have hnone : s.catalogo.lookup novo = none := AList.lookup_eq_none.mpr hnovo
    refine Or.inr ⟨novo, _, salvar_eq_some hh (Or.inl ⟨rfl, rfl⟩) h, Or.inl ⟨?_, trivial⟩⟩
    simp [hnone]
  | editar c form =>
    simp only [step, Option.bind_eq_bind, Option.bind_eq_some_iff] at h
    obtain ⟨r, hr, h⟩ := h
    obtain ⟨i, hi, hlookup, htipo⟩ := Catalogo.registroDe_eq_some.mp hr
    have hmem : i ∈ s.catalogo := AList.lookup_isSome.mp (by simp [hlookup])
    have hid : ((some c).getD {}).id = some i := hi
    exact Or.inr ⟨i, _, salvar_eq_some hh (Or.inr ⟨hid, hmem⟩) h,
      Or.inr ⟨c, form, r, rfl, hlookup, htipo, rfl⟩⟩
  | deletar c =>
    simp only [step, Option.bind_eq_bind, Option.bind_eq_some_iff] at h
    obtain ⟨r, hr, h⟩ := h
    obtain ⟨i, hi, hlookup, htipo⟩ := Catalogo.registroDe_eq_some.mp hr
    have hmem : i ∈ s.catalogo := AList.lookup_isSome.mp (by simp [hlookup])
    have hold : ∀ r', s.catalogo.lookup i = some r' → r'.tipo = c.tipo := by
      intro r' hr'
      rw [htipo, Option.some.inj (hr'.symm.trans hlookup)]
    simp only [CarroPage.deletar, CarrosApi.delete_answer_existente hh absent 0 hi hmem] at h
    obtain rfl : Tabs.sendEvent s (some ⟨"Carro Deletado", c.tipo⟩) (s.catalogo.erase i) = s' := by
      simpa [ApiResponse.success] using h
    exact Or.inr ⟨i, c.tipo, ⟨⟨_, rfl⟩, Or.inr ⟨rfl, hold⟩⟩, Or.inl ⟨hold, trivial⟩⟩

/-- A write changes the list of a tipo only if its event carries that tipo or the old record was
of that tipo. -/
lemma Tabs.Escreve.listar_eq {s s' : Tabs} {i : Int} {tipo : Option String}
    (h : s.Escreve s' i tipo) {t : String} (ht : tipo ≠ some t)
    (hold : ∀ r, s.catalogo.lookup i = some r → r.tipo ≠ some t) :
    s'.catalogo.listar t = s.catalogo.listar t := by
  rcases h.catalogo with ⟨r, hr, hcat⟩ | ⟨hcat, -⟩
  · rw [hcat]
    exact Catalogo.listar_insert_of_ne (hr ▸ ht) hold
  · rw [hcat]
    exact Catalogo.listar_erase_of_ne hold

/-- After a write a tab has called `fetch` exactly if the event carries its tipo. -/
lemma Tabs.Escreve.getElem?_tabs {s s' : Tabs} {i : Int} {tipo : Option String}
    (h : s.Escreve s' i tipo) {k : ℕ} {t : Tab} (hk : s.tabs[k]? = some t) :
    s'.tabs[k]? = some (if tipo = some t.tipo then t.fetch else t) := by
  obtain ⟨acao, htabs⟩ := h.tabs
  rw [htabs, List.getElem?_map, hk]
  rfl

/-- Every changed tab fetches exactly if the step does not move a car away from a mounted tab. -/
lemma Tabs.avisa_iff (hh : headers stored = .ok hs) {s s' : Tabs} {p : TabPasso}
    (h : Tabs.step absent stored s p = some s') : s.Avisa s' ↔ s.MantemTipo p := by
  rcases step_cases hh h with ⟨hmantem, hcat, -⟩ | ⟨i, tipo, hesc, hkind⟩
  · exact ⟨fun _ => hmantem, fun _ k t _ hne => absurd (by rw [hcat]) hne⟩
  · have hfetch : ∀ (k : ℕ) (t : Tab), s.tabs[k]? = some t →
        (s'.tabs[k]? = some t.fetch ↔ tipo = some t.tipo) := by
      intro k t hk
      rw [hesc.getElem?_tabs hk]
      by_cases htipo : tipo = some t.tipo
      · simp [htipo]
      · have hne : t ≠ t.fetch := fun heq => by
          have hlen := congrArg (fun t => t.pendentes.length) heq
          simp [Tab.fetch] at hlen
        simp [htipo, hne]
    rcases hkind with ⟨hold, hmantem⟩ | ⟨c, form, r, rfl, hlookup, hctipo, rfl⟩
    · refine iff_of_true ?_ hmantem
      intro k t hk hne
      refine (hfetch k t hk).mpr ?_
      by_contra htipo
      exact hne (hesc.listar_eq htipo fun r hr => by rwa [hold r hr])
    · constructor
      · -- A tab of the old tipo has lost a car, and the event does not reach it.
        intro havisa hne t ht hold
        obtain ⟨k, hk⟩ := List.getElem?_of_mem ht
        refine hne (hold.trans ((hfetch k t hk).mp (havisa k t hk fun hlistar => ?_)).symm)
        have hmem : (⟨i, r⟩ : Σ _ : Int, Registro) ∈ s.catalogo.listar t.tipo :=
          Catalogo.mem_listar.mpr ⟨hlookup, hctipo.symm.trans hold⟩
        rw [← hlistar] at hmem
        obtain ⟨hnew, hrtipo⟩ := Catalogo.mem_listar.mp hmem
        rcases hesc.catalogo with ⟨r', hr', hcat⟩ | ⟨hcat, -⟩
        · rw [hcat, AList.lookup_insert] at hnew
          obtain rfl := Option.some.inj hnew
          exact hne (hctipo.trans hr')
        · rw [hcat, AList.lookup_erase] at hnew
          cases hnew
      · intro hmantem k t hk hne
        refine (hfetch k t hk).mpr ?_
        by_contra htipo
        refine hne (hesc.listar_eq htipo fun r' hr' hold => ?_)
        obtain rfl := Option.some.inj (hr'.symm.trans hlookup)
        have htipo' : c.tipo = some t.tipo := hctipo.trans hold
        exact hmantem (fun heq => htipo (heq.symm.trans htipo')) t (List.mem_of_getElem? hk) htipo'

end Writes

/-! ## Runs -/

/-- A tab shows the given list, or will once its pending fetches have completed: the last of them
is not answered yet or was answered with that list. -/
structure Tab.Fresca (event : FetchEvent) (t : Tab) : Prop where
  mostrada : t.pendentes = [] → t.mostrada = some event
  ultima : ∀ event', t.pendentes.getLast? = some (some event') → event' = event

namespace Tab

variable {event : FetchEvent} {t t' : Tab}

/-- A tab that fetches will show whatever the server answers. -/
lemma fresca_fetch : t.fetch.Fresca event :=
  ⟨fun hnil => by simp [fetch] at hnil, fun event' hlast => by simp [fetch] at hlast⟩

/-- Changing a tab does not change its tipo. -/
lemma Muda.tipo_eq (h : t.Muda event t') : t'.tipo = t.tipo := by
  rcases h with rfl | ⟨j, hj⟩ | hc
  · rfl
  · unfold responder at hj
    split at hj
    · obtain rfl := Option.some.inj hj
      rfl
    · cases hj
  · unfold completar at hc
    split at hc
    · obtain rfl := Option.some.inj hc
      rfl
    · cases hc

/-- An answer with the current list keeps a tab fresh. -/
lemma Fresca.responder (h : t.Fresca event) {j : ℕ} (hj : t.responder j event = some t') :
    t'.Fresca event := by
  unfold Tab.responder at hj
  split at hj
  · rename_i hpend
    obtain rfl := Option.some.inj hj
    obtain ⟨hlt, -⟩ := List.getElem?_eq_some_iff.mp hpend
    constructor
    · intro hnil
      have hlen := congrArg List.length hnil
      simp only [List.length_set, List.length_nil] at hlen
      omega
    · intro event' hlast
      rw [List.getLast?_eq_getElem?, List.length_set] at hlast
      by_cases hj' : j = t.pendentes.length - 1
      · rw [← hj', List.getElem?_set_self hlt] at hlast
        exact (Option.some.inj (Option.some.inj hlast)).symm
      · rw [List.getElem?_set_ne hj', ← List.getLast?_eq_getElem?] at hlast
        exact h.ultima event' hlast
  · cases hj

/-- The completion of the oldest fetch keeps a tab fresh. -/
lemma Fresca.completar (h : t.Fresca event) (hc : t.completar = some t') : t'.Fresca event := by
  unfold Tab.completar at hc
  split at hc
  · rename_i event' pendentes hpend
    obtain rfl := Option.some.inj hc
    constructor
    · intro hnil
      obtain rfl : pendentes = [] := hnil
      have heq := h.ultima event' (by rw [hpend]; rfl)
      rw [← heq]
    · intro event'' hlast
      refine h.ultima event'' ?_
      rw [hpend, List.getLast?_cons, hlast]
      rfl
  · cases hc

/-- Every change of a tab keeps it fresh. -/
lemma Fresca.muda (h : t.Fresca event) (hm : t.Muda event t') : t'.Fresca event := by
  rcases hm with rfl | ⟨j, hj⟩ | hc
  · exact fresca_fetch
  · exact h.responder hj
  · exact h.completar hc

end Tab

namespace Tabs

variable {absent : Response} {stored : Option String} {hs : List (String × String)}

/-- Every tab shows the current list of its tipo, or will. -/
def Frescas (s : Tabs) : Prop := ∀ t ∈ s.tabs, t.Fresca (atual s.catalogo t.tipo)

/-- Every step whose changed tabs fetch keeps all tabs fresh. -/
lemma Frescas.step (hh : headers stored = .ok hs) {s s' : Tabs} (hf : s.Frescas) {p : TabPasso}
    (hp : s.MantemTipo p) (h : Tabs.step absent stored s p = some s') : s'.Frescas := by
  have havisa := (avisa_iff hh h).mpr hp
  rcases step_cases hh h with ⟨-, hcat, ⟨tipo, htabs⟩ | ⟨k, t, t', hk, hmuda, htabs⟩⟩ |
    ⟨i, tipo, hesc, -⟩
  · intro u hu
    rw [htabs] at hu
    rw [hcat]
    rcases List.mem_append.mp hu with hu | hu
    · exact hf u hu
    · obtain rfl := List.mem_singleton.mp hu
      exact Tab.fresca_fetch
  · intro u hu
    rw [htabs] at hu
    rw [hcat]
    rcases List.mem_or_eq_of_mem_set hu with hu | rfl
    · exact hf u hu
    · rw [hmuda.tipo_eq]
      exact (hf t (List.mem_of_getElem? hk)).muda hmuda
  · intro u hu
    obtain ⟨k, hk'⟩ := List.getElem?_of_mem hu
    obtain ⟨acao, htabs⟩ := hesc.tabs
    rw [htabs, List.getElem?_map, Option.map_eq_some_iff] at hk'
    obtain ⟨t, hk, hu'⟩ := hk'
    have hget := hesc.getElem?_tabs hk
    by_cases hlist : s'.catalogo.listar t.tipo = s.catalogo.listar t.tipo
    · rw [← hu', Tab.listen]
      split_ifs
      · exact Tab.fresca_fetch
      · rw [atual, hlist]
        exact hf t (List.mem_of_getElem? hk)
    · have hfetch := havisa k t hk hlist
      rw [htabs, List.getElem?_map, hk, Option.map_some, hu'] at hfetch
      obtain rfl := Option.some.inj hfetch
      exact Tab.fresca_fetch

end Tabs

end Carros
