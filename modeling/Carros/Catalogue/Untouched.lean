import Carros.Catalogue.FormOutcome

/-!
# Saving an untouched form

`initState` and `getTipoInt` of `pages/carros/carro-form-page.dart`, and what becomes of a car whose
form is opened and saved as it is.  A text field shows a string, so the text of a controller that
was set to `null` is one too; which one is the parameter `vazio`.

The form writes a string into `descricao` and one of three tipos into `tipo`: `normal` is the car
with these two fields as the form has them.  `salvar_sem_mudar` proves that this is the car the
request carries, and when it is the car the form was opened with.
-/

namespace Carros

open Dart

variable {σ : Type}

namespace CarroFormPage

/-- `getTipoInt`. -/
def getTipoInt (carro : Carro) : Int :=
  if carro.tipo = some "classicos" then 0
  else if carro.tipo = some "esportivos" then 1
  else 2

/-- `initState` of the form of a car. -/
def initState (vazio : String) (carro : Carro) : Formulario :=
  { nome := carro.nome.getD vazio
    descricao := carro.descricao.getD vazio
    radioIndex := getTipoInt carro
    file := none }

/-- The car with a description that is not `null` and one of the three tipos. -/
def normal (vazio : String) (c : Carro) : Carro :=
  { c with
    descricao := some (c.descricao.getD vazio)
    tipo := some (getTipo (getTipoInt c)) }

/-- The form has a radio button for the tipo. -/
def TipoConhecido (c : Carro) : Prop :=
  c.tipo = some "classicos" ∨ c.tipo = some "esportivos" ∨ c.tipo = some "luxo"

/-- One request was sent, and its body is decoded to the car. -/
def Enviou (reqs : List Request) (c : Carro) : Prop :=
  ∃ req body, ∃ map : DynMap, reqs = [req] ∧ req.body = some body ∧
    jsonDecode body = some (.map map) ∧ Carro.fromMap map = .ok c

/-- The requests say which car was sent. -/
lemma Enviou.unique {reqs : List Request} {c d : Carro} (hc : Enviou reqs c) (hd : Enviou reqs d) :
    c = d := by
  obtain ⟨req, body, map, rfl, hbody, hmap, hc⟩ := hc
  obtain ⟨req', body', map', hreq, hbody', hmap', hd⟩ := hd
  obtain rfl := List.singleton_injective hreq
  obtain rfl := Option.some.inj (hbody.symm.trans hbody')
  obtain rfl := Dyn.map.inj (Option.some.inj (hmap.symm.trans hmap'))
  exact Except.ok.inj (hc.symm.trans hd)

/-- The tipo goes through its radio button unchanged exactly if it has one. -/
lemma getTipo_getTipoInt (c : Carro) :
    c.tipo = some (getTipo (getTipoInt c)) ↔ TipoConhecido c := by
  unfold TipoConhecido getTipoInt
  by_cases hclassicos : c.tipo = some "classicos"
  · simp [hclassicos, getTipo]
  · by_cases hesportivos : c.tipo = some "esportivos"
    · simp [hesportivos, getTipo]
    · simp [hclassicos, hesportivos, getTipo]

/-- What the form does to a car it leaves alone exactly if the form can show it. -/
lemma normal_eq_iff (vazio : String) (c : Carro) :
    normal vazio c = c ↔ c.descricao ≠ none ∧ TipoConhecido c := by
  rw [← getTipo_getTipoInt]
  obtain ⟨id, nome, tipo, descricao, urlFoto, urlVideo, latitude, longitude⟩ := c
  cases descricao with
  | none => simp [normal]
  | some d => simp [normal, eq_comm]

/-- An untouched form writes the two fields, and the nome it was opened with. -/
lemma preencher_initState (vazio : String) {c : Carro} (hnome : c.nome ≠ none) :
    preencher (some c) (initState vazio c) = normal vazio c := by
  obtain ⟨id, nome, tipo, descricao, urlFoto, urlVideo, latitude, longitude⟩ := c
  obtain ⟨nome, rfl⟩ := Option.ne_none_iff_exists'.mp hnome
  rfl

/-- An untouched form of a car with a nome is valid. -/
lemma validateNome_initState (vazio : String) {c : Carro} {nome : String}
    (hnome : c.nome = some nome) (hne : nome ≠ "") :
    validateNome (initState vazio c).nome = none := by
  simp [validateNome, initState, hnome, hne]

end CarroFormPage

/-- The requests a save without a photo sends: one with the car for a body, or none without a user
in the session. -/
lemma CarrosApi.requests_save (transport : Transport σ) (stored : Option String) (c : Carro)
    (w : σ) :
    (∃ hs, headers stored = .ok hs ∧ (save (registra transport) stored c none (w, [])).2.2.2 =
        [⟨saveMethod c, saveUrl c, hs, some c.toJson⟩]) ∨
      (∀ hs, headers stored ≠ .ok hs) ∧
        (save (registra transport) stored c none (w, [])).2.2.2 = [] := by
  cases hheaders : headers stored with
  | error e =>
    refine Or.inr ⟨by simp, ?_⟩
    simp [save, hheaders]
  | ok hs =>
    refine Or.inl ⟨hs, rfl, ?_⟩
    simp [save, hheaders, request, registra, enviarFoto]

open CarroFormPage in
/-- **Saving an untouched form.**  Whatever the car, if it has a nome that is not empty: with a user
in the session one request is sent, and its body is decoded to the car with the description and the
tipo the form shows; without one none is sent.  The decoded car is the car of the form exactly if
its description is not `null` and the form has a radio button for its tipo. -/
theorem salvar_sem_mudar (transport : Transport σ) (stored : Option String) (vazio : String)
    (c : CarroApp) {nome : String} (hnome : c.val.nome = some nome) (hne : nome ≠ "") (w : σ) :
    ∃ saida, onClickSalvar (registra transport) stored (some c.val) (initState vazio c.val)
        (w, []) = some saida ∧
      ((∃ hs, headers stored = .ok hs) ∧ Enviou saida.world.2 (normal vazio c.val) ∨
        (∀ hs, headers stored ≠ .ok hs) ∧ saida.world.2 = []) ∧
      (normal vazio c.val = c.val ↔ c.val.descricao ≠ none ∧ TipoConhecido c.val) := by
  have hvalid := validateNome_initState vazio hnome hne
  have hpreencher := preencher_initState vazio (c := c.val) (by simp [hnome])
  have hid : (normal vazio c.val).IdInt64 := c.property
  refine ⟨_, by simp only [onClickSalvar, hvalid]; rfl, ?_, normal_eq_iff vazio c.val⟩
  rw [hpreencher]
  rcases CarrosApi.requests_save transport stored (normal vazio c.val) w with
    ⟨hs, hheaders, hreqs⟩ | ⟨hno, hreqs⟩
  · exact Or.inl ⟨⟨hs, hheaders⟩, _, _, _, hreqs, rfl, Carro.jsonDecode_toJson hid,
      Carro.fromMap_toMap _⟩
  · exact Or.inr ⟨hno, hreqs⟩

open CarroFormPage in
/-- A car with all its fields: the request carries it as it is. -/
theorem salvar_sem_mudar_completo :
    let stored := some "\x7b\"roles\":[]\x7d"
    let fusca : Carro :=
      { id := some 1, nome := some "Fusca", tipo := some "classicos", descricao := some "1968",
        urlFoto := some "fusca.jpg", urlVideo := some "fusca.mp4", latitude := some "-23.5",
        longitude := some "-46.6" }
    let server : Transport Unit := fun _ w => (.error .transport, w)
    ∃ saida, onClickSalvar (registra server) stored (some fusca) (initState "" fusca) ((), []) =
        some saida ∧ Enviou saida.world.2 fusca := by
  intro stored fusca server
  obtain ⟨hs, hheaders⟩ := exists_headers_semRoles
  obtain ⟨saida, hsaida, henvio, hnormal⟩ :=
    salvar_sem_mudar server stored "" ⟨fusca, by decide⟩ rfl (by decide) ()
  have hfusca : normal "" fusca = fusca := hnormal.mpr ⟨by decide, Or.inl rfl⟩
  rw [hfusca] at henvio
  rcases henvio with ⟨-, henviou⟩ | ⟨hno, -⟩
  · exact ⟨saida, hsaida, henviou⟩
  · exact absurd hheaders (hno hs)

open CarroFormPage in
/-- A car with a nome only: the request carries it with an empty description and of the tipo
luxo. -/
theorem salvar_sem_mudar_fails :
    let stored := some "\x7b\"roles\":[]\x7d"
    let fusca : Carro := { nome := some "Fusca" }
    let server : Transport Unit := fun _ w => (.error .transport, w)
    ∃ saida, onClickSalvar (registra server) stored (some fusca) (initState "" fusca) ((), []) =
        some saida ∧
      Enviou saida.world.2 { fusca with descricao := some "", tipo := some "luxo" } ∧
      ¬ Enviou saida.world.2 fusca := by
  intro stored fusca server
  obtain ⟨hs, hheaders⟩ := exists_headers_semRoles
  have henviou : Enviou (CarrosApi.save (registra server) stored (normal "" fusca) none
      ((), [])).2.2.2 (normal "" fusca) := by
    rcases CarrosApi.requests_save server stored (normal "" fusca) () with
      ⟨hs', -, hreqs⟩ | ⟨hno, -⟩
    · exact ⟨_, _, _, hreqs, rfl, Carro.jsonDecode_toJson (by decide), Carro.fromMap_toMap _⟩
    · exact absurd hheaders (hno hs)
  refine ⟨_, rfl, henviou, fun h => ?_⟩
  have heq := (normal_eq_iff "" fusca).mp (henviou.unique h)
  exact heq.1 rfl

end Carros
