import Carros.Base.StepRun
import Carros.Catalogue.Server
import Carros.Favoritos.FavoritoService

/-!
# Favourites against a set of cars

Sequences of completed calls of `favoritar2` on cars the app shows: cars of a tab, decoded by
`CarrosApi.getCarros`, and cars of the favourites list, decoded by `FavoritoService.toList`.

No decoded car has an id, so all of them share the document `null`.  The second of two calls
deletes what the first one wrote, whichever cars they were about.  `toggles_correct_iff` proves
that the favourites are the set of cars toggled an odd number of times exactly when every car is
toggled on and straight off again.
-/

namespace Carros

open Dart

/-- A tap on the favourite button of a shown car: the car at place `k` of the tab of a tipo, or at
place `k` of the favourites list. -/
inductive Toque where
  | tab (tipo : String) (k : ℕ)
  | favorito (k : ℕ)

/-- The collection, with two records of what happened: `donos` gives for every document the id of
the catalogue car whose call wrote it, and `historia` lists the calls so far, each with the id of
the catalogue car it was about and the status it returned. -/
structure Favoritas where
  colecao : Colecao
  donos : String → Int
  historia : List (Int × Bool)

namespace Favoritas

/-- The start: no documents and no calls. -/
def inicio : Favoritas := ⟨∅, fun _ => 0, []⟩

variable (absent : Response) (stored : Option String) (cat : Catalogo)

/-- The cars a tab shows. -/
def tab (tipo : String) : List Carro :=
  match (CarrosApi.getCarros (Catalogo.answer absent 0) stored tipo cat).1 with
  | .ok carros => carros
  | .error _ => []

/-- The cars the favourites list shows. -/
def lista (s : Favoritas) : List Carro :=
  match FavoritoService.toList s.colecao with
  | .ok carros => carros
  | .error _ => []

/-- The car a tap is about: its id in the catalogue, and the object the app shows. -/
def exibido (s : Favoritas) : Toque → Option (Int × Carro)
  | .tab tipo k => do
    let e ← (cat.listar tipo)[k]?
    let c ← (tab absent stored cat tipo)[k]?
    return (e.1, c)
  | .favorito k => do
    let d ← s.colecao.snapshot[k]?
    let c ← s.lista[k]?
    return (s.donos d.1, c)

/-- One completed call. -/
def chamar (s : Favoritas) (i : Int) (c : Carro) : Favoritas :=
  let (status, colecao) := FavoritoService.favoritar2 s.colecao c
  { colecao
    donos := if status then Function.update s.donos (FavoritoService.document c) i else s.donos
    historia := s.historia ++ [(i, status)] }

/-- One tap. -/
def step (s : Favoritas) (t : Toque) : Option Favoritas := do
  let (i, c) ← exibido absent stored cat s t
  return s.chamar i c

/-- The catalogue cars the calls were about, in order. -/
def tocados (s : Favoritas) : List Int := s.historia.map Prod.fst

/-- A car was toggled an odd number of times. -/
def impar (is : List Int) (i : Int) : Bool := is.count i % 2 = 1

/-- The favourites are the set of cars toggled an odd number of times: a shown car is reported as
a favourite if it is one, every call returned the new status of its car, and the list shows the
favourite cars, each once and with all its fields. -/
structure Correto (s : Favoritas) : Prop where
  status : ∀ (tipo : String) (k : ℕ) (e : Σ _ : Int, Registro) (c : Carro),
    (cat.listar tipo)[k]? = some e → (tab absent stored cat tipo)[k]? = some c →
    FavoritoService.isFavorito2 s.colecao c = impar s.tocados e.1
  returned : ∀ n i b, s.historia[n]? = some (i, b) → b = impar (s.tocados.take (n + 1)) i
  list : ∃ cs, FavoritoService.toList s.colecao = .ok cs ∧
    cs.Perm ((cat.entries.filter fun e => impar s.tocados e.1).map fun e => e.2.carro e.1)

end Favoritas

/-- A list of cars in which every car is followed at once by itself. -/
def Pareado : List Int → Prop
  | [] => True
  | [_] => False
  | i :: j :: is => i = j ∧ Pareado is

/-! ## Paired lists -/

/-- A paired beginning does not matter. -/
lemma Pareado.append_iff {is : List Int} (h : Pareado is) (js : List Int) :
    Pareado (is ++ js) ↔ Pareado js := by
  induction is using Pareado.induct with
  | case1 => rfl
  | case2 i => exact h.elim
  | case3 i j is ih =>
    obtain ⟨rfl, hrest⟩ := h
    simp [Pareado, ih hrest]

/-- In a paired list every car occurs an even number of times. -/
lemma Pareado.count_even {is : List Int} (h : Pareado is) (k : Int) : is.count k % 2 = 0 := by
  induction is using Pareado.induct with
  | case1 => rfl
  | case2 i => exact h.elim
  | case3 i j is ih =>
    obtain ⟨rfl, hrest⟩ := h
    have hk := ih hrest
    simp only [List.count_cons]
    split <;> omega

/-! ## The three kinds of states -/

namespace Favoritas

variable {absent : Response} {stored : Option String} {cat : Catalogo}

/-- With a session, a tab shows the records of its tipo. -/
lemma tab_eq {hs : List (String × String)} (hh : headers stored = .ok hs) (tipo : String) :
    tab absent stored cat tipo = (cat.listar tipo).map fun e => (e.2.carro e.1).semId := by
  simp only [tab, CarrosApi.getCarros_answer hh]

/-- With a session, a tap on a car of a tab is about the record of that place. -/
lemma step_tab {hs : List (String × String)} (hh : headers stored = .ok hs) (s : Favoritas)
    {tipo : String} {k : ℕ} {e : Σ _ : Int, Registro} (he : (cat.listar tipo)[k]? = some e) :
    step absent stored cat s (.tab tipo k) = some (s.chamar e.1 (e.2.carro e.1).semId) := by
  simp [step, exibido, tab_eq hh, he]

/-- A shown car has no id. -/
lemma id_of_tab {tipo : String} {c : Carro} (h : c ∈ tab absent stored cat tipo) : c.id = none := by
  cases hh : headers stored with
  | error e => simp [tab, CarrosApi.getCarros_of_headers_error hh] at h
  | ok hs =>
    rw [tab_eq hh] at h
    obtain ⟨e, -, rfl⟩ := List.mem_map.mp h
    rfl

/-- The document that all shown cars share. -/
lemma document_of_id {c : Carro} (h : c.id = none) : FavoritoService.document c = "null" := by
  rw [FavoritoService.document, h, interpolate]

/-- Nothing is a favourite, every call returned the status of its car, and every car was toggled
on and straight off again. -/
structure Vazia (s : Favoritas) : Prop where
  colecao : s.colecao = ∅
  pareado : Pareado s.tocados
  returned : ∀ n i b, s.historia[n]? = some (i, b) → b = impar (s.tocados.take (n + 1)) i

/-- After such calls one more car was toggled on. -/
structure Cheia (s : Favoritas) : Prop where
  colecao : ∃ c : Carro, c.id = none ∧ s.colecao = (∅ : Colecao).insert "null" c.toMap
  historia : ∃ pre, Pareado (pre.map Prod.fst) ∧ s.historia = pre ++ [(s.donos "null", true)]
  returned : ∀ n i b, s.historia[n]? = some (i, b) → b = impar (s.tocados.take (n + 1)) i

/-- After such calls one car was toggled on and another one off. -/
def Quebrada (s : Favoritas) : Prop :=
  ∃ pre i j post, Pareado (pre.map Prod.fst) ∧ i ≠ j ∧
    s.historia = pre ++ (i, true) :: (j, false) :: post

/-- The last of a history was about one more car. -/
lemma returned_append {s : Favoritas} {i : Int} {b : Bool} {s' : Favoritas}
    (hold : ∀ n i b, s.historia[n]? = some (i, b) → b = impar (s.tocados.take (n + 1)) i)
    (hs' : s'.historia = s.historia ++ [(i, b)]) (hb : b = impar (s.tocados ++ [i]) i) :
    ∀ n i b, s'.historia[n]? = some (i, b) → b = impar (s'.tocados.take (n + 1)) i := by
  intro n j b' hn
  have hlen : s.tocados.length = s.historia.length := List.length_map _
  have htocados : s'.tocados = s.tocados ++ [i] := by simp [tocados, hs']
  rw [hs'] at hn
  rcases Nat.lt_or_ge n s.historia.length with hlt | hge
  · rw [List.getElem?_append_left hlt] at hn
    rw [htocados, List.take_append_of_le_length (by omega)]
    exact hold n j b' hn
  · rw [List.getElem?_append_right hge] at hn
    obtain ⟨hzero, hval⟩ := List.getElem?_eq_some_iff.mp hn
    have hn' : n = s.historia.length := by simp at hzero; omega
    subst hn'
    obtain ⟨rfl, rfl⟩ : i = j ∧ b = b' := by simpa using hval
    rw [htocados, List.take_of_length_le (by simp [hlen])]
    exact hb

/-- From a state without favourites every tap on a shown car toggles it on. -/
lemma Vazia.step {s s' : Favoritas} (hs : s.Vazia) {t : Toque}
    (h : Favoritas.step absent stored cat s t = some s') : s'.Cheia := by
  simp only [Favoritas.step, Option.bind_eq_bind, Option.bind_eq_some_iff, Option.pure_def] at h
  obtain ⟨⟨i, c⟩, hshown, hs'⟩ := h
  obtain rfl := Option.some.inj hs'
  cases t with
  | favorito k =>
    simp [exibido, hs.colecao, Colecao.snapshot] at hshown
  | tab tipo k =>
    simp only [exibido, Option.bind_eq_bind, Option.bind_eq_some_iff, Option.pure_def] at hshown
    obtain ⟨e, -, c', hc, hpair⟩ := hshown
    obtain ⟨rfl, rfl⟩ := Prod.mk.inj (Option.some.inj hpair)
    have hid := id_of_tab (List.mem_of_getElem? hc)
    have hdoc := document_of_id hid
    have hcall : s.chamar e.1 c' = ⟨(∅ : Colecao).insert "null" c'.toMap,
        Function.update s.donos "null" e.1, s.historia ++ [(e.1, true)]⟩ := by
      simp [chamar, FavoritoService.favoritar2, FavoritoService.isFavorito2, hs.colecao,
        FavoritoService.decidir, Colecao.apply, hdoc]
    rw [hcall]
    refine ⟨⟨c', hid, rfl⟩, ⟨s.historia, hs.pareado, by simp⟩, ?_⟩
    refine returned_append hs.returned rfl ?_
    have heven := hs.pareado.count_even e.1
    simp [impar, List.count_append]
    omega

/-- From a state with one favourite, the car of the next tap has no id; if the tap is on the
favourites list, it is the favourite. -/
lemma Cheia.exibido_eq_some {s : Favoritas} (hs : s.Cheia) {t : Toque} {i : Int} {c : Carro}
    (h : exibido absent stored cat s t = some (i, c)) : c.id = none := by
  obtain ⟨d, hd, hcol⟩ := hs.colecao
  cases t with
  | tab tipo k =>
    simp only [exibido, Option.bind_eq_bind, Option.bind_eq_some_iff, Option.pure_def] at h
    obtain ⟨e, -, c', hc, hpair⟩ := h
    obtain ⟨-, rfl⟩ := Prod.mk.inj (Option.some.inj hpair)
    exact id_of_tab (List.mem_of_getElem? hc)
  | favorito k =>
    have hlista : s.lista = [d.semId] := by
      have hsnap : s.colecao.snapshot = [⟨"null", d.toMap⟩] := by rw [hcol]; rfl
      simp [lista, FavoritoService.toList, hsnap, pure, Except.pure]
    simp only [exibido, Option.bind_eq_bind, Option.bind_eq_some_iff, Option.pure_def, hlista] at h
    obtain ⟨e, -, c', hc, hpair⟩ := h
    obtain ⟨-, rfl⟩ := Prod.mk.inj (Option.some.inj hpair)
    obtain rfl := List.mem_singleton.mp (List.mem_of_getElem? hc)
    rfl

/-- From a state with one favourite, the next tap toggles it off, whichever car it is about. -/
lemma Cheia.step {s s' : Favoritas} (hs : s.Cheia) {t : Toque}
    (h : Favoritas.step absent stored cat s t = some s') : s'.Vazia ∨ s'.Quebrada := by
  obtain ⟨d, hd, hcol⟩ := hs.colecao
  obtain ⟨pre, hpar, hhist⟩ := hs.historia
  simp only [Favoritas.step, Option.bind_eq_bind, Option.bind_eq_some_iff, Option.pure_def] at h
  obtain ⟨⟨i, c⟩, hshown, hs'⟩ := h
  obtain rfl := Option.some.inj hs'
  have hdoc := document_of_id (hs.exibido_eq_some hshown)
  have hcall : s.chamar i c = ⟨∅, s.donos, s.historia ++ [(i, false)]⟩ := by
    have hfav : FavoritoService.favoritar2 s.colecao c = (false, ∅) := by
      rw [FavoritoService.favoritar2, FavoritoService.isFavorito2, hdoc, hcol]
      rfl
    simp [chamar, hfav]
  rw [hcall]
  by_cases hi : s.donos "null" = i
  · have htocados : s.tocados = pre.map Prod.fst ++ [i] := by simp [tocados, hhist, hi]
    refine Or.inl ⟨rfl, ?_, returned_append hs.returned rfl ?_⟩
    · have hall :
          tocados ⟨∅, s.donos, s.historia ++ [(i, false)]⟩ = pre.map Prod.fst ++ [i, i] := by
        simp [tocados, hhist, hi]
      rw [hall]
      exact (hpar.append_iff _).mpr ⟨rfl, trivial⟩
    · have heven := hpar.count_even i
      rw [htocados]
      simp [impar, List.count_append, List.append_assoc]
      omega
  · refine Or.inr ⟨pre, s.donos "null", i, [], hpar, hi, ?_⟩
    simp [hhist]

/-- A history with such a pair keeps it. -/
lemma Quebrada.step {s s' : Favoritas} (hs : s.Quebrada) {t : Toque}
    (h : Favoritas.step absent stored cat s t = some s') : s'.Quebrada := by
  obtain ⟨pre, i, j, post, hpar, hij, hhist⟩ := hs
  simp only [Favoritas.step, Option.bind_eq_bind, Option.bind_eq_some_iff, Option.pure_def] at h
  obtain ⟨⟨k, c⟩, -, hs'⟩ := h
  obtain rfl := Option.some.inj hs'
  refine ⟨pre, i, j, post ++ [(k, (FavoritoService.favoritar2 s.colecao c).1)], hpar, hij, ?_⟩
  simp [chamar, hhist]

/-- Without favourites everything is as it should be. -/
lemma Vazia.correto {s : Favoritas} (hs : s.Vazia) : s.Correto absent stored cat := by
  have hnone : ∀ i, impar s.tocados i = false := by
    intro i
    simp [impar, hs.pareado.count_even i]
  refine ⟨fun tipo k e c _ _ => ?_, hs.returned, [], ?_, ?_⟩
  · rw [hnone, FavoritoService.isFavorito2, hs.colecao]
    rfl
  · rw [hs.colecao]
    rfl
  · simp [hnone]

/-- The one favourite is listed as a car without an id, and no car of the catalogue is one. -/
lemma Cheia.not_correto {s : Favoritas} (hs : s.Cheia) : ¬ s.Correto absent stored cat := by
  obtain ⟨c, hc, hcol⟩ := hs.colecao
  rintro ⟨-, -, cs, hcs, hperm⟩
  have hlist : FavoritoService.toList s.colecao = .ok [c.semId] := by
    have hsnap : s.colecao.snapshot = [⟨"null", c.toMap⟩] := by rw [hcol]; rfl
    simp [FavoritoService.toList, hsnap, pure, Except.pure]
  obtain rfl := Except.ok.inj (hcs.symm.trans hlist)
  have hmem := hperm.subset List.mem_cons_self
  obtain ⟨e, -, he⟩ := List.mem_map.mp hmem
  have hid : some e.1 = none := congrArg Carro.id he
  cases hid

/-- A car toggled on last is not toggled off. -/
lemma Cheia.not_pareado {s : Favoritas} (hs : s.Cheia) : ¬ Pareado s.tocados := by
  obtain ⟨pre, hpar, hhist⟩ := hs.historia
  intro hpareado
  rw [tocados, hhist, List.map_append] at hpareado
  exact (hpar.append_iff _).mp hpareado

/-- The second call of the pair returned `false` for a car it should have toggled on. -/
lemma Quebrada.not_correto {s : Favoritas} (hs : s.Quebrada) : ¬ s.Correto absent stored cat := by
  obtain ⟨pre, i, j, post, hpar, hij, hhist⟩ := hs
  rintro ⟨-, hreturned, -⟩
  have hcall := hreturned (pre.length + 1) j false (by simp [hhist])
  have htocados : s.tocados = pre.map Prod.fst ++ i :: j :: post.map Prod.fst := by
    simp [tocados, hhist]
  have htake : s.tocados.take (pre.length + 2) = pre.map Prod.fst ++ [i, j] := by
    rw [htocados, List.take_append, List.take_of_length_le (by simp)]
    simp
  rw [htake] at hcall
  have heven := hpar.count_even j
  simp [impar, List.count_append, hij] at hcall
  omega

/-- The pair is not one of the same car. -/
lemma Quebrada.not_pareado {s : Favoritas} (hs : s.Quebrada) : ¬ Pareado s.tocados := by
  obtain ⟨pre, i, j, post, hpar, hij, hhist⟩ := hs
  intro hpareado
  have htocados : s.tocados = pre.map Prod.fst ++ i :: j :: post.map Prod.fst := by
    simp [tocados, hhist]
  rw [htocados] at hpareado
  exact hij ((hpar.append_iff _).mp hpareado).1

/-- Every run ends in a state of one of the three kinds. -/
lemma run_cases {s : Favoritas} {toques : List Toque}
    (h : StepRun.run (Favoritas.step absent stored cat) inicio toques = some s) :
    s.Vazia ∨ s.Cheia ∨ s.Quebrada := by
  refine StepRun.run_invariant_of_step (I := fun s => s.Vazia ∨ s.Cheia ∨ s.Quebrada) ?_ ?_ h
  · rintro s t s' (hs | hs | hs) hstep
    · exact Or.inr (Or.inl (hs.step hstep))
    · exact (hs.step hstep).imp_right Or.inr
    · exact Or.inr (Or.inr (hs.step hstep))
  · exact Or.inl ⟨rfl, trivial, fun n i b hn => by simp [inicio] at hn⟩

end Favoritas

/-- **Favourites against a set of cars.**  After completed calls on shown cars, from an empty
collection, the favourites are the set of cars toggled an odd number of times if and only if every
car was toggled on and straight off again. -/
theorem toggles_correct_iff (absent : Response) (stored : Option String) (cat : Catalogo)
    (toques : List Toque) (s : Favoritas)
    (h : StepRun.run (Favoritas.step absent stored cat) Favoritas.inicio toques = some s) :
    s.Correto absent stored cat ↔ Pareado s.tocados := by
  rcases Favoritas.run_cases h with hs | hs | hs
  · exact iff_of_true hs.correto hs.pareado
  · exact iff_of_false hs.not_correto hs.not_pareado
  · exact iff_of_false hs.not_correto hs.not_pareado

/-- A car toggled on from its tab and off from the favourites list. -/
theorem toggles_correct_pair :
    let stored := some "\x7b\"roles\":[]\x7d"
    let cat : Catalogo :=
      AList.singleton 1 ⟨some "Fusca", some "classicos", none, none, none, none, none⟩
    let toques : List Toque := [.tab "classicos" 0, .favorito 0]
    ∃ s, StepRun.run (Favoritas.step ⟨404, ""⟩ stored cat) Favoritas.inicio toques = some s ∧
      s.tocados = [1, 1] ∧ s.Correto ⟨404, ""⟩ stored cat := by
  intro stored cat toques
  obtain ⟨hs, hh⟩ := exists_headers_semRoles
  let fusca : Carro := { nome := some "Fusca" }
  have hrun : StepRun.run (Favoritas.step ⟨404, ""⟩ stored cat) Favoritas.inicio toques =
      some ((Favoritas.inicio.chamar 1 fusca).chamar 1 fusca) := by
    have hprimeiro : (cat.listar "classicos")[0]? = some ⟨1, _⟩ := rfl
    refine (StepRun.run_cons_of_step (Favoritas.step_tab hh _ hprimeiro) _).trans ?_
    exact StepRun.run_cons_of_step rfl _
  refine ⟨_, hrun, rfl, (toggles_correct_iff _ stored cat toques _ hrun).mpr ?_⟩
  exact ⟨rfl, trivial⟩

/-- Two cars of a tab, the one toggled after the other: the second call says that its car is no
longer a favourite. -/
theorem toggles_two_cars_fail :
    let stored := some "\x7b\"roles\":[]\x7d"
    let cat : Catalogo := (AList.singleton 1 ⟨some "Fusca", some "classicos", none, none, none,
      none, none⟩).insert 2 ⟨some "Opala", some "classicos", none, none, none, none, none⟩
    let toques : List Toque := [.tab "classicos" 0, .tab "classicos" 1]
    ∃ s, StepRun.run (Favoritas.step ⟨404, ""⟩ stored cat) Favoritas.inicio toques = some s ∧
      ¬ s.Correto ⟨404, ""⟩ stored cat := by
  intro stored cat toques
  obtain ⟨hs, hh⟩ := exists_headers_semRoles
  let fusca : Carro := { nome := some "Fusca" }
  let opala : Carro := { nome := some "Opala" }
  have hrun : StepRun.run (Favoritas.step ⟨404, ""⟩ stored cat) Favoritas.inicio toques =
      some ((Favoritas.inicio.chamar 2 opala).chamar 1 fusca) := by
    have hprimeiro : (cat.listar "classicos")[0]? = some ⟨2, _⟩ := rfl
    have hsegundo : (cat.listar "classicos")[1]? = some ⟨1, _⟩ := rfl
    refine (StepRun.run_cons_of_step (Favoritas.step_tab hh _ hprimeiro) _).trans ?_
    exact StepRun.run_cons_of_step (Favoritas.step_tab hh _ hsegundo) _
  refine ⟨_, hrun, fun hcorreto => ?_⟩
  have hcall := hcorreto.returned 1 1 false rfl
  cases hcall

end Carros
