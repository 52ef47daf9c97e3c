import Carros.Catalogue.Server
import Mathlib.Data.List.Infix

/-!
# Searching for cars

`CarrosApi.search` of `pages/carros/carros_api.dart`, the class `TipoCarro` and the method
`String.contains`.  The case folding `toUpperCase` is a parameter.

`Acha` says what a search is for: the cars a tab of `TipoCarro.classicos` shows and whose nome
contains the query.  The tipo in the request of `search` is misspelt, and the loop calls
`toUpperCase` on every nome, `null` or not; `search_iff` settles when the search finds the cars
nevertheless.
-/

namespace Dart

/-- `String.contains`. -/
def contains (s t : String) : Bool := decide (t.toList <:+: s.toList)

end Dart

namespace Carros

open Dart

variable {σ : Type}

/-- `TipoCarro.classicos`. -/
def TipoCarro.classicos : String := "classicos"

/-- The tipo in the request of `search`. -/
def CarrosApi.tipoSearch : String := "classiscos"

/-- The server answers the URL of every tipo with JSON objects of the cars of the tipo. -/
def ServeTipos (transport : Transport σ) (stored : Option String) (w : σ)
    (listas : String → List Carro) : Prop :=
  ∀ tipo, ∃ status body, ∃ maps : List DynMap,
    (request transport stored .get (urlTipo tipo) none w).1 = .ok ⟨status, body⟩ ∧
      jsonDecode body = some (.list (maps.map .map)) ∧
      maps.mapM Carro.fromMap = .ok (listas tipo)

section Search

variable (toUpperCase : String → String)

/-- The car has a nome, and it contains the query whatever the case of both. -/
def Carro.casa (query : String) (c : Carro) : Bool :=
  match c.nome with
  | none => false
  | some nome => contains (toUpperCase nome) (toUpperCase query)

namespace CarrosApi

/-- The loop of `search`. -/
def buscar (query : String) : List Carro → Except DartError (List Carro)
  | [] => .ok []
  | c :: carros =>
    match c.nome with
    | none => .error .noSuchMethod
    | some nome => do
      let list ← buscar query carros
      return if contains (toUpperCase nome) (toUpperCase query) then c :: list else list

/-- `search`. -/
def search (transport : Transport σ) (stored : Option String) (query : String) (w : σ) :
    Except DartError (List Carro) × σ :=
  let (carros, w') := getCarros transport stored tipoSearch w
  (carros.bind (buscar toUpperCase query), w')

/-- The search returns the cars a tab of `TipoCarro.classicos` shows that have the query in their
nome, in order, each as often as it is shown. -/
def Acha (transport : Transport σ) (stored : Option String) (query : String) (w : σ) : Prop :=
  ∃ carros, (getCarros transport stored TipoCarro.classicos w).1 = .ok carros ∧
    (search toUpperCase transport stored query w).1 =
      .ok (carros.filter (Carro.casa toUpperCase query))

/-- The loop keeps the cars that match, if every car has a nome, and throws otherwise. -/
lemma buscar_eq (query : String) (carros : List Carro) :
    buscar toUpperCase query carros =
      if ∀ c ∈ carros, c.nome ≠ none then .ok (carros.filter (Carro.casa toUpperCase query))
      else .error .noSuchMethod := by
  induction carros with
  | nil => rfl
  | cons c carros ih =>
    cases hnome : c.nome with
    | none => simp [buscar, hnome]
    | some nome =>
      have hcasa : c.casa toUpperCase query = contains (toUpperCase nome) (toUpperCase query) := by
        rw [Carro.casa, hnome]
      rw [buscar, ih, List.filter_cons, hcasa]
      simp only [hnome]
      by_cases hrest : ∀ c ∈ carros, c.nome ≠ none
      · rw [if_pos hrest, if_pos (by simpa [hnome] using hrest)]
        rfl
      · rw [if_neg hrest, if_neg fun h => hrest fun c hc => h c (List.mem_cons_of_mem _ hc)]
        rfl

/-- The cars of a list that match, as a tab shows them. -/
def achados (query : String) (lista : List Carro) : List Carro :=
  (lista.map Carro.semId).filter (Carro.casa toUpperCase query)

variable {toUpperCase} {transport : Transport σ} {stored : Option String} {w : σ}
  {listas : String → List Carro}

/-- The list of a tipo, as its tab shows it. -/
lemma getCarros_of_serveTipos (h : ServeTipos transport stored w listas) (tipo : String) :
    (getCarros transport stored tipo w).1 = .ok ((listas tipo).map Carro.semId) := by
  obtain ⟨status, body, maps, hanswer, hbody, hmaps⟩ := h tipo
  exact getCarros_of_answer hanswer hbody hmaps

/-- What a search comes back with: the cars that match of the list it asks for, if all of them have
a nome. -/
lemma search_of_serveTipos (h : ServeTipos transport stored w listas) (query : String) :
    (search toUpperCase transport stored query w).1 =
      if ∀ c ∈ listas tipoSearch, c.nome ≠ none then
        .ok (achados toUpperCase query (listas tipoSearch))
      else .error .noSuchMethod := by
  have hlista := getCarros_of_serveTipos h tipoSearch
  simp only [search, hlista]
  refine (buscar_eq toUpperCase query _).trans ?_
  simp only [List.forall_mem_map]
  rfl

/-- The search finds the cars exactly if the list it asks for has names only, and the same cars that
match. -/
lemma acha_iff (h : ServeTipos transport stored w listas) (query : String) :
    Acha toUpperCase transport stored query w ↔
      (∀ c ∈ listas tipoSearch, c.nome ≠ none) ∧
        achados toUpperCase query (listas tipoSearch) =
          achados toUpperCase query (listas TipoCarro.classicos) := by
  rw [Acha, getCarros_of_serveTipos h, search_of_serveTipos h]
  constructor
  · rintro ⟨carros, hcarros, hsearch⟩
    obtain rfl := Except.ok.inj hcarros
    by_cases hnomes : ∀ c ∈ listas tipoSearch, c.nome ≠ none
    · rw [if_pos hnomes] at hsearch
      exact ⟨hnomes, Except.ok.inj hsearch⟩
    · rw [if_neg hnomes] at hsearch
      cases hsearch
  · rintro ⟨hnomes, hachados⟩
    exact ⟨_, rfl, by rw [if_pos hnomes, hachados]; rfl⟩

end CarrosApi

end Search

/-- The server catalogue serves its tipos, if its ids fit into an `int`. -/
lemma Catalogo.serveTipos {stored : Option String} {hs : List (String × String)}
    (hh : headers stored = .ok hs) (absent : Response) (novo : Int) (cat : Catalogo)
    (hids : ∀ i ∈ cat.keys, IsInt64 i) :
    ServeTipos (Catalogo.answer absent novo) stored cat fun tipo =>
      (cat.listar tipo).map fun e => e.2.carro e.1 := by
  intro tipo
  refine ⟨200, bodyLista (cat.listar tipo), (cat.listar tipo).map fun e => e.2.json e.1, ?_, ?_, ?_⟩
  · simp [request, hh, Catalogo.answer, Catalogo.listarUrl_urlTipo]
  · have hcarros : ∀ c ∈ (cat.listar tipo).map fun e => e.2.carro e.1, c.IdInt64 := by
      intro c hc j hj
      obtain ⟨e, he, rfl⟩ := List.mem_map.mp hc
      obtain rfl := Option.some.inj hj
      exact hids e.1 (List.mem_map_of_mem (List.mem_of_mem_filter he))
    have h := Carro.jsonDecode_list_toMap hcarros
    rw [List.map_map, List.map_map, List.map_map] at h
    rw [List.map_map]
    exact h
  · exact Registro.mapM_fromMap_json (cat.listar tipo)

/-- **The search.**  With a server that answers the URL of every tipo with the list of the tipo, a
search finds what it is for exactly if every car listed under the misspelt tipo has a nome and the
cars listed there that match the query are those of `TipoCarro.classicos`; and queries with the same
upper-case form always have the same result. -/
theorem search_iff (toUpperCase : String → String) {transport : Transport σ}
    {stored : Option String} {w : σ} {listas : String → List Carro}
    (h : ServeTipos transport stored w listas) (query : String) :
    (CarrosApi.Acha toUpperCase transport stored query w ↔
      (∀ c ∈ listas CarrosApi.tipoSearch, c.nome ≠ none) ∧
        CarrosApi.achados toUpperCase query (listas CarrosApi.tipoSearch) =
          CarrosApi.achados toUpperCase query (listas TipoCarro.classicos)) ∧
      ∀ query', toUpperCase query = toUpperCase query' →
        (CarrosApi.search toUpperCase transport stored query w).1 =
          (CarrosApi.search toUpperCase transport stored query' w).1 := by
  refine ⟨CarrosApi.acha_iff h query, fun query' hquery => ?_⟩
  have hcasa : Carro.casa toUpperCase query = Carro.casa toUpperCase query' := by
    funext c
    rw [Carro.casa, Carro.casa, hquery]
  rw [CarrosApi.search_of_serveTipos h, CarrosApi.search_of_serveTipos h, CarrosApi.achados,
    CarrosApi.achados, hcasa]

/-- A catalogue with the one car Fusca. -/
def catalogoFusca : Catalogo :=
  (∅ : Catalogo).insert 1 ⟨some "Fusca", some "classicos", none, none, none, none, none⟩

/-- A search for a part of its nome, and for another part. -/
theorem search_iff_fusca :
    let server := Catalogo.answer ⟨404, ""⟩ 0
    let stored := some "\x7b\"roles\":[]\x7d"
    let listas := fun tipo => (catalogoFusca.listar tipo).map fun e => e.2.carro e.1
    (CarrosApi.Acha String.toUpper server stored "fus" catalogoFusca ↔
      (∀ c ∈ listas CarrosApi.tipoSearch, c.nome ≠ none) ∧
        CarrosApi.achados String.toUpper "fus" (listas CarrosApi.tipoSearch) =
          CarrosApi.achados String.toUpper "fus" (listas TipoCarro.classicos)) ∧
      ∀ query', String.toUpper "fus" = String.toUpper query' →
        (CarrosApi.search String.toUpper server stored "fus" catalogoFusca).1 =
          (CarrosApi.search String.toUpper server stored query' catalogoFusca).1 := by
  intro server stored listas
  obtain ⟨hs, hh⟩ := exists_headers_semRoles
  have hserve := Catalogo.serveTipos hh ⟨404, ""⟩ 0 catalogoFusca (by decide)
  exact search_iff String.toUpper hserve "fus"

/-- The same search: it comes back with no car. -/
theorem search_iff_fails :
    let server := Catalogo.answer ⟨404, ""⟩ 0
    let stored := some "\x7b\"roles\":[]\x7d"
    let fusca : Carro := { nome := some "Fusca" }
    (CarrosApi.getCarros server stored TipoCarro.classicos catalogoFusca).1 = .ok [fusca] ∧
      fusca.casa String.toUpper "fus" = true ∧
      (CarrosApi.search String.toUpper server stored "fus" catalogoFusca).1 = .ok [] ∧
      ¬ CarrosApi.Acha String.toUpper server stored "fus" catalogoFusca := by
  intro server stored fusca
  obtain ⟨hs, hh⟩ := exists_headers_semRoles
  have hserve := Catalogo.serveTipos hh ⟨404, ""⟩ 0 catalogoFusca (by decide)
  have htab : (CarrosApi.getCarros server stored TipoCarro.classicos catalogoFusca).1 =
      .ok [fusca] := CarrosApi.getCarros_of_serveTipos hserve _
  have hcasa : fusca.casa String.toUpper "fus" = true := by decide +kernel
  have hsearch : (CarrosApi.search String.toUpper server stored "fus" catalogoFusca).1 = .ok [] :=
    CarrosApi.search_of_serveTipos hserve "fus"
  refine ⟨htab, hcasa, hsearch, ?_⟩
  rintro ⟨carros, hcarros, hfound⟩
  obtain rfl := Except.ok.inj (htab.symm.trans hcarros)
  have hempty := Except.ok.inj (hsearch.symm.trans hfound)
  rw [List.filter_cons_of_pos hcasa] at hempty
  cases hempty

end Carros
