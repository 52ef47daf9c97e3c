import Carros.Favoritos.FavoritosModel

/-!
# Reloads and toggles that overlap

What `FavoritosModel` ends up with, however its reloads and the calls of `Favoritar` overlap.

Every write is followed in the queue by the join of a reload, and lists are assigned in the order in
which their joins were issued.  So either a join is still to come after the last write, or the last
list that was or will be assigned is the current one, or a call of `Favoritar` has not returned and
will issue both: `Vista.Consistente`.

If no two calls of `Favoritar` overlap, each of them reads the favourites as the calls before it
leave them, although their writes may still be waiting: the queue is first-in first-out, so the
query is executed after them.  `Vista.Sequencial` compares the favourites after everything in the
queue with the calls that have returned, and `Vista.Fase` says where the one call under way is.
-/

namespace Carros

open Dart Sql FavoritoService

namespace FavoritosModel

/-! ## Statements -/

/-- The ids of the favourites. -/
def membros (banco : Database) (i : Int) : Bool :=
  match FavoritoDAO.existsId banco (some i) with
  | .ok b => b
  | .error _ => false

/-- The favourites of tables that hold cars and favourites. -/
lemma membros_eq {banco : Database} {carros : Int → Option Carro} {m : Int → Option Favorito}
    (h : Guarda banco carros m) : membros banco = fun i => (m i).isSome := by
  funext i
  rw [membros, h.favoritos.reads.existsId_some]

/-- The statement changes the favourites. -/
def Comando.Escreve : Comando → Prop
  | .apagar _ => True
  | .salvar _ => True
  | _ => False

/-- The favourites after a statement. -/
def Comando.efeito (m : Int → Bool) : Comando → Int → Bool
  | .apagar c => Function.update m c.id false
  | .salvar c => Function.update m c.id true
  | _ => m

/-- The answer of a statement: a query is answered with what is stored, a join with the join. -/
def Comando.Responde (banco : Database) (r : Resposta) : Comando → Prop
  | .consulta k c => r = .existe k (membros banco c.id)
  | .juncao => ∃ cs, getCarros banco = .ok cs ∧ r = .carros cs
  | _ => r = .escrita

/-- On tables that hold cars and favourites a statement is executed and does what `efeito` says. -/
lemma Comando.executar_eq {banco : Database} (h : Guardado banco) (gen : RowIds)
    (comando : Comando) :
    ∃ r banco', comando.executar gen banco = .ok (r, banco') ∧ Guardado banco' ∧
      membros banco' = comando.efeito (membros banco) ∧
      (¬ comando.Escreve → banco' = banco) ∧ comando.Responde banco r := by
  obtain ⟨carros, m, h⟩ := h
  have hmembros := membros_eq h
  cases comando with
  | consulta k c =>
    have hexiste : FavoritoDAO.existsId banco c.carro.id = .ok (membros banco c.id) := by
      rw [c.id_eq, h.favoritos.reads.existsId_some, hmembros]
    refine ⟨.existe k (membros banco c.id), banco, ?_, ⟨_, _, h⟩, rfl, fun _ => rfl, rfl⟩
    simp only [Comando.executar, hexiste, ok_bind]
    rfl
  | apagar c =>
    obtain ⟨n, banco', hdelete, hguarda⟩ := h.delete_favorito c.id
    refine ⟨.escrita, banco', ?_, ⟨_, _, hguarda⟩, ?_, fun hno => absurd trivial hno, rfl⟩
    · simp only [Comando.executar, c.id_eq, hdelete, ok_bind]
      rfl
    · rw [membros_eq hguarda, hmembros]
      funext i
      by_cases hi : i = c.id <;> simp [Comando.efeito, hi]
  | salvar c =>
    obtain ⟨n, banco', hsave, hguarda⟩ := h.save_favorito gen c.id_eq
    refine ⟨.escrita, banco', ?_, ⟨_, _, hguarda⟩, ?_, fun hno => absurd trivial hno, rfl⟩
    · simp only [Comando.executar, hsave, ok_bind]
      rfl
    · rw [membros_eq hguarda, hmembros]
      funext i
      by_cases hi : i = c.id <;> simp [Comando.efeito, hi]
  | juncao =>
    obtain ⟨ids, -, -, hget⟩ := h.getCarros_eq
    refine ⟨.carros _, banco, ?_, ⟨_, _, h⟩, rfl, fun _ => rfl, _, hget, rfl⟩
    simp only [Comando.executar, hget, ok_bind]
    rfl

/-- What a step that executes a statement leaves: the equations of `executar_eq` for its outcome. -/
lemma Comando.of_executar {banco banco' : Database} (h : Guardado banco) {gen : RowIds}
    {comando : Comando} {r : Resposta} (hexec : comando.executar gen banco = .ok (r, banco')) :
    Guardado banco' ∧ membros banco' = comando.efeito (membros banco) ∧
      (¬ comando.Escreve → banco' = banco) ∧ comando.Responde banco r := by
  obtain ⟨r₁, banco₁, hexec₁, hspec⟩ := comando.executar_eq h gen
  obtain ⟨rfl, rfl⟩ := Prod.mk.inj (Except.ok.inj (hexec₁.symm.trans hexec))
  exact hspec

/-- Every step keeps tables that hold cars and favourites. -/
lemma Vista.Passa.guardado {gen : RowIds} {l : Option CarroComId} {v v' : Vista}
    (hp : Vista.Passa gen l v v') (h : Guardado v.banco) : Guardado v'.banco := by
  cases hp with
  | executar _ _ hexec => exact (Comando.of_executar h hexec).1
  | _ => exact h

/-! ## The list in the model -/

/-- A join is still to come after the last write. -/
def Coberta (fila : List Comando) : Prop :=
  ∃ antes depois, fila = antes ++ .juncao :: depois ∧ ∀ comando ∈ depois, ¬ comando.Escreve

/-- The last list that was or will be assigned is the join of the tables. -/
def Vista.Atual (v : Vista) : Prop :=
  ∃ cs, v.valores.getLast? = some cs ∧ getCarros v.banco = .ok cs

/-- The model has the current list, or will be told it. -/
def Vista.Consistente (v : Vista) : Prop :=
  Coberta v.fila ∨ ((∀ comando ∈ v.fila, ¬ comando.Escreve) ∧ v.Atual) ∨
    ∃ ch ∈ v.chamadas, ch.ativa ≠ none

/-- A queue that ends with a join. -/
lemma coberta_concat (fila : List Comando) : Coberta (fila ++ [.juncao]) :=
  ⟨fila, [], rfl, by simp⟩

/-- Every step keeps the model consistent. -/
lemma Vista.Consistente.passa {gen : RowIds} {l : Option CarroComId} {v v' : Vista}
    (h : v.Consistente) (hguardado : Guardado v.banco) (hp : Vista.Passa gen l v v') :
    v'.Consistente := by
  cases hp with
  | nada => exact h
  | favoritar _ c =>
    refine .inr (.inr ⟨.consultando c, ?_, by simp [Chamada.ativa]⟩)
    exact List.mem_append_right _ (List.mem_singleton_self _)
  | recarregar => exact .inl (coberta_concat v.fila)
  | @executar _ comando fila r banco hfila hexec =>
    obtain ⟨-, -, hbanco, hresponde⟩ := Comando.of_executar hguardado hexec
    -- An executed join leaves the current list behind.
    have hjuncao : comando = .juncao → (∀ cmd ∈ fila, ¬ cmd.Escreve) →
        Vista.Consistente { v with
          banco, fila
          existes := v.existes ++ r.comoExiste.toList
          valores := v.valores ++ r.comoCarros.toList } := by
      rintro rfl hdepois
      obtain ⟨cs, hget, rfl⟩ := hresponde
      obtain rfl := hbanco not_false
      exact .inr (.inl ⟨hdepois, cs, List.getLast?_concat, hget⟩)
    rcases h with ⟨antes, depois, hcoberta, hdepois⟩ | ⟨hnenhuma, cs, hvalores, hget⟩ | hativa
    · rw [hfila] at hcoberta
      cases antes with
      | nil =>
        obtain ⟨rfl, rfl⟩ := List.cons.inj hcoberta
        exact hjuncao rfl hdepois
      | cons _ antes =>
        obtain ⟨-, rfl⟩ := List.cons.inj hcoberta
        exact .inl ⟨antes, depois, rfl, hdepois⟩
    · rw [hfila] at hnenhuma
      obtain ⟨hcomando, hresto⟩ := List.forall_mem_cons.mp hnenhuma
      cases comando with
      | juncao => exact hjuncao rfl hresto
      | apagar => exact absurd trivial hcomando
      | salvar => exact absurd trivial hcomando
      | consulta k c =>
        obtain rfl := hbanco not_false
        obtain rfl := hresponde
        refine .inr (.inl ⟨hresto, cs, ?_, hget⟩)
        simpa [Resposta.comoCarros] using hvalores
    · exact .inr (.inr hativa)
  | @responder _ k b existes c hexistes hk =>
    refine .inr (.inr ⟨.consultado c b, ?_, by simp [Chamada.ativa]⟩)
    obtain ⟨hlt, -⟩ := List.getElem?_eq_some_iff.mp hk
    exact List.mem_set hlt _
  | @continuar _ k c existe hk =>
    refine .inl ⟨v.fila ++ [escritaDe c existe], [], ?_, by simp⟩
    simp

/-! ## Calls that do not overlap -/

/-- The statement is a query of a call. -/
def Comando.Consulta : Comando → Prop
  | .consulta _ _ => True
  | _ => False

/-- No call is under way. -/
def Livre (chamadas : List Chamada) : Prop := ∀ ch ∈ chamadas, ch.ativa = none

/-- No call but `k` is under way. -/
def SoAtiva (chamadas : List Chamada) (k : ℕ) : Prop :=
  ∀ j ch, chamadas[j]? = some ch → ch.ativa ≠ none → j = k

/-- The favourites after a queue of statements. -/
def assentar (m : Int → Bool) (fila : List Comando) : Int → Bool := fila.foldl Comando.efeito m

/-- The favourites after a toggle. -/
def alternar (m : Int → Bool) (c : CarroComId) : Int → Bool :=
  Function.update m c.id (!m c.id)

/-- The favourites after toggles one after the other. -/
def depoisDe (m : Int → Bool) (cs : List CarroComId) : Int → Bool := cs.foldl alternar m

/-- What toggles one after the other return: whether their car is a favourite after them. -/
def retornosDe (m : Int → Bool) : List CarroComId → List (CarroComId × Bool)
  | [] => []
  | c :: cs => (c, alternar m c c.id) :: retornosDe (alternar m c) cs

/-- One more toggle. -/
lemma depoisDe_concat (m : Int → Bool) (cs : List CarroComId) (c : CarroComId) :
    depoisDe m (cs ++ [c]) = alternar (depoisDe m cs) c := by
  rw [depoisDe, List.foldl_append]
  rfl

/-- One more toggle returns the opposite of what was there. -/
lemma retornosDe_concat (m : Int → Bool) (cs : List CarroComId) (c : CarroComId) :
    retornosDe m (cs ++ [c]) = retornosDe m cs ++ [(c, !depoisDe m cs c.id)] := by
  induction cs generalizing m with
  | nil => simp [retornosDe, depoisDe, alternar]
  | cons d cs ih =>
    rw [List.cons_append, retornosDe, ih]
    rfl

/-- The write of a call does the toggle. -/
lemma efeito_escritaDe (m : Int → Bool) (c : CarroComId) :
    (escritaDe c (m c.id)).efeito m = alternar m c := by
  cases hm : m c.id <;> simp [escritaDe, Comando.efeito, alternar, hm]

/-- Joins change nothing. -/
lemma assentar_of_juncoes {fila : List Comando} (h : ∀ comando ∈ fila, comando = .juncao)
    (m : Int → Bool) : assentar m fila = m := by
  induction fila with
  | nil => rfl
  | cons comando fila ih =>
    obtain ⟨rfl, hresto⟩ := List.forall_mem_cons.mp h
    exact ih hresto

/-- Only a query of a call is answered to a call. -/
lemma Comando.Responde.comoExiste {banco : Database} {r : Resposta} {comando : Comando}
    (h : comando.Responde banco r) (hconsulta : ¬ comando.Consulta) : r.comoExiste = none := by
  cases comando with
  | consulta => exact absurd trivial hconsulta
  | apagar =>
    obtain rfl := h
    rfl
  | salvar =>
    obtain rfl := h
    rfl
  | juncao =>
    obtain ⟨cs, -, rfl⟩ := h
    rfl

/-- The call that goes on is the only one under way. -/
lemma SoAtiva.set {chamadas : List Chamada} {k : ℕ} (h : SoAtiva chamadas k) (ch : Chamada) :
    SoAtiva (chamadas.set k ch) k := by
  intro j ch' hj hativa
  by_cases hkj : k = j
  · exact hkj.symm
  · rw [List.getElem?_set_ne hkj] at hj
    exact h j ch' hj hativa

/-- Once the only call under way has returned, none is. -/
lemma SoAtiva.livre_set {chamadas : List Chamada} {k : ℕ} (h : SoAtiva chamadas k) :
    Livre (chamadas.set k .fim) := by
  intro ch hch
  obtain ⟨j, hj⟩ := List.mem_iff_getElem?.mp hch
  by_cases hkj : k = j
  · obtain ⟨hlt, heq⟩ := List.getElem?_eq_some_iff.mp hj
    subst hkj
    rw [List.getElem_set_self] at heq
    rw [← heq]
    rfl
  · by_contra hativa
    exact hkj (h.set .fim j ch hj hativa).symm

/-- A call that starts when none is under way is the only one. -/
lemma Livre.soAtiva_concat {chamadas : List Chamada} (h : Livre chamadas) (ch : Chamada) :
    SoAtiva (chamadas ++ [ch]) chamadas.length := by
  intro j ch' hj hativa
  rcases Nat.lt_or_ge j chamadas.length with hlt | hge
  · rw [List.getElem?_append_left hlt] at hj
    exact absurd (h ch' (List.mem_of_getElem? hj)) hativa
  · obtain ⟨hlt, -⟩ := List.getElem?_eq_some_iff.mp hj
    rw [List.length_append, List.length_singleton] at hlt
    omega

/-- Where the one call under way is: there is none, its query has not been executed, its answer is
on its way, or it has been read. -/
inductive Vista.Fase (m : Int → Bool) (v : Vista) : Prop where
  | livre (hlivre : Livre v.chamadas) (hordem : v.iniciadas = v.retornos.map Prod.fst)
    (hfila : ∀ comando ∈ v.fila, ¬ comando.Consulta) (hexistes : v.existes = [])
  | esperando {k : ℕ} {c : CarroComId} {antes depois : List Comando} (hso : SoAtiva v.chamadas k)
    (hk : v.chamadas[k]? = some (.consultando c))
    (hordem : v.iniciadas = v.retornos.map Prod.fst ++ [c])
    (hfila : v.fila = antes ++ .consulta k c :: depois)
    (hantes : ∀ comando ∈ antes, ¬ comando.Consulta)
    (hdepois : ∀ comando ∈ depois, comando = .juncao) (hexistes : v.existes = [])
  | respondida {k : ℕ} {c : CarroComId} (hso : SoAtiva v.chamadas k)
    (hk : v.chamadas[k]? = some (.consultando c))
    (hordem : v.iniciadas = v.retornos.map Prod.fst ++ [c])
    (hfila : ∀ comando ∈ v.fila, ¬ comando.Consulta)
    (hexistes : v.existes = [(k, depoisDe m (v.retornos.map Prod.fst) c.id)])
  | lida {k : ℕ} {c : CarroComId} (hso : SoAtiva v.chamadas k)
    (hk : v.chamadas[k]? =
      some (.consultado c (depoisDe m (v.retornos.map Prod.fst) c.id)))
    (hordem : v.iniciadas = v.retornos.map Prod.fst ++ [c])
    (hfila : ∀ comando ∈ v.fila, ¬ comando.Consulta) (hexistes : v.existes = [])

/-- The calls that have returned returned what they return one after the other, and the favourites
after the statements in the queue are those after them. -/
structure Vista.Sequencial (m : Int → Bool) (v : Vista) : Prop where
  guardado : Guardado v.banco
  assentado : assentar (membros v.banco) v.fila = depoisDe m (v.retornos.map Prod.fst)
  certos : v.retornos = retornosDe m (v.retornos.map Prod.fst)
  fase : v.Fase m

/-- The statement at the head of a queue with one query is the query or comes before it. -/
lemma Vista.Fase.executar {m : Int → Bool} {v : Vista} (h : v.Fase m) {comando : Comando}
    {fila : List Comando} {r : Resposta} {banco : Database} (hfila : v.fila = comando :: fila)
    (hresponde : comando.Responde v.banco r)
    (hassentado : assentar (membros v.banco) v.fila = depoisDe m (v.retornos.map Prod.fst)) :
    Vista.Fase m { v with
      banco, fila
      existes := v.existes ++ r.comoExiste.toList
      valores := v.valores ++ r.comoCarros.toList } := by
  -- Unless the query itself is executed, nothing is answered to a call.
  have hsem : (∀ cmd ∈ v.fila, ¬ cmd.Consulta) →
      v.existes ++ r.comoExiste.toList = v.existes ∧ ∀ cmd ∈ fila, ¬ cmd.Consulta := by
    intro hsem
    rw [hfila] at hsem
    obtain ⟨hcomando, hresto⟩ := List.forall_mem_cons.mp hsem
    rw [hresponde.comoExiste hcomando]
    exact ⟨List.append_nil _, hresto⟩
  cases h with
  | livre hlivre hordem hconsulta hexistes =>
    obtain ⟨hmesmo, hresto⟩ := hsem hconsulta
    exact .livre hlivre hordem hresto (hmesmo.trans hexistes)
  | @esperando k c antes depois hso hk hordem hposicao hantes hdepois hexistes =>
    rw [hfila] at hposicao
    cases antes with
    | nil =>
      obtain ⟨rfl, rfl⟩ := List.cons.inj hposicao
      obtain rfl := hresponde
      refine .respondida hso hk hordem (fun cmd hcmd => ?_) ?_
      · rw [hdepois cmd hcmd]
        exact not_false
      · rw [hfila] at hassentado
        have hlido : membros v.banco = depoisDe m (v.retornos.map Prod.fst) :=
          (assentar_of_juncoes hdepois _).symm.trans hassentado
        simp only [hexistes, hlido, Resposta.comoExiste, Option.toList_some, List.nil_append]
    | cons _ antes =>
      obtain ⟨rfl, rfl⟩ := List.cons.inj hposicao
      obtain ⟨hcomando, hresto⟩ := List.forall_mem_cons.mp hantes
      refine .esperando hso hk hordem rfl hresto hdepois ?_
      rw [hresponde.comoExiste hcomando]
      exact (List.append_nil _).trans hexistes
  | respondida hso hk hordem hconsulta hexistes =>
    obtain ⟨hmesmo, hresto⟩ := hsem hconsulta
    exact .respondida hso hk hordem hresto (hmesmo.trans hexistes)
  | lida hso hk hordem hconsulta hexistes =>
    obtain ⟨hmesmo, hresto⟩ := hsem hconsulta
    exact .lida hso hk hordem hresto (hmesmo.trans hexistes)

/-- A reload can start at any time. -/
lemma Vista.Fase.recarregar {m : Int → Bool} {v : Vista} (h : v.Fase m) :
    Vista.Fase m { v with fila := v.fila ++ [.juncao] } := by
  have hsem : (∀ cmd ∈ v.fila, ¬ cmd.Consulta) →
      ∀ cmd ∈ v.fila ++ [.juncao], ¬ cmd.Consulta := by
    intro hsem
    exact List.forall_mem_append.mpr ⟨hsem, List.forall_mem_singleton.mpr not_false⟩
  cases h with
  | livre hlivre hordem hconsulta hexistes => exact .livre hlivre hordem (hsem hconsulta) hexistes
  | @esperando k c antes depois hso hk hordem hposicao hantes hdepois hexistes =>
    have hposicao' : v.fila ++ [.juncao] = antes ++ .consulta k c :: (depois ++ [.juncao]) := by
      rw [hposicao, List.append_assoc, List.cons_append]
    exact .esperando hso hk hordem hposicao' hantes
      (List.forall_mem_append.mpr ⟨hdepois, List.forall_mem_singleton.mpr rfl⟩) hexistes
  | respondida hso hk hordem hconsulta hexistes =>
    exact .respondida hso hk hordem (hsem hconsulta) hexistes
  | lida hso hk hordem hconsulta hexistes => exact .lida hso hk hordem (hsem hconsulta) hexistes

/-- A call that starts when none is under way is the one under way. -/
lemma Vista.Fase.favoritar {m : Int → Bool} {v : Vista} (h : v.Fase m) (hlivre : Livre v.chamadas)
    (c : CarroComId) :
    Vista.Fase m { v with
      chamadas := v.chamadas ++ [.consultando c]
      iniciadas := v.iniciadas ++ [c]
      fila := v.fila ++ [.consulta v.chamadas.length c] } := by
  have hnenhuma : ∀ {k : ℕ} {ch : Chamada}, v.chamadas[k]? = some ch → ch.ativa = none :=
    fun hk => hlivre _ (List.mem_of_getElem? hk)
  cases h with
  | livre _ hordem hconsulta hexistes =>
    have hordem' : v.iniciadas ++ [c] = v.retornos.map Prod.fst ++ [c] := by rw [hordem]
    exact .esperando (hlivre.soAtiva_concat _) List.getElem?_concat_length hordem' rfl hconsulta
      (by simp) hexistes
  | esperando _ hk => cases hnenhuma hk
  | respondida _ hk => cases hnenhuma hk
  | lida _ hk => cases hnenhuma hk

/-- The answer of the query is read by its call. -/
lemma Vista.Fase.responder {m : Int → Bool} {v : Vista} (h : v.Fase m) {k : ℕ} {b : Bool}
    {existes : List (ℕ × Bool)} {c : CarroComId} (hexistes : v.existes = (k, b) :: existes)
    (hk : v.chamadas[k]? = some (.consultando c)) :
    Vista.Fase m { v with existes, chamadas := v.chamadas.set k (.consultado c b) } := by
  cases h with
  | livre _ _ _ hvazio => cases hexistes.symm.trans hvazio
  | esperando _ _ _ _ _ _ hvazio => cases hexistes.symm.trans hvazio
  | lida _ _ _ _ hvazio => cases hexistes.symm.trans hvazio
  | respondida hso hk' hordem hconsulta hum =>
    obtain ⟨hpar, rfl⟩ := List.cons.inj (hexistes.symm.trans hum)
    obtain ⟨rfl, rfl⟩ := Prod.mk.inj hpar
    obtain rfl := Chamada.consultando.inj (Option.some.inj (hk.symm.trans hk'))
    obtain ⟨hlt, -⟩ := List.getElem?_eq_some_iff.mp hk
    exact .lida (hso.set _) (List.getElem?_set_self hlt) hordem hconsulta rfl

/-- A call goes on: it was the one under way, and it read what the calls before it left. -/
lemma Vista.Fase.continuar {m : Int → Bool} {v : Vista} (h : v.Fase m) {k : ℕ} {c : CarroComId}
    {existe : Bool} (hk : v.chamadas[k]? = some (.consultado c existe)) :
    existe = depoisDe m (v.retornos.map Prod.fst) c.id ∧
      Vista.Fase m { v with
        chamadas := v.chamadas.set k .fim
        fila := v.fila ++ [escritaDe c existe, .juncao]
        retornos := v.retornos ++ [(c, !existe)] } := by
  have hativa : (Chamada.consultado c existe).ativa ≠ none := by simp [Chamada.ativa]
  cases h with
  | livre hlivre => exact absurd (hlivre _ (List.mem_of_getElem? hk)) hativa
  | esperando hso hk' =>
    obtain rfl := hso k _ hk hativa
    cases hk.symm.trans hk'
  | respondida hso hk' =>
    obtain rfl := hso k _ hk hativa
    cases hk.symm.trans hk'
  | lida hso hk' hordem hconsulta hexistes =>
    obtain rfl := hso k _ hk hativa
    obtain ⟨rfl, hlido⟩ := Chamada.consultado.inj (Option.some.inj (hk.symm.trans hk'))
    refine ⟨hlido, .livre hso.livre_set ?_ ?_ hexistes⟩
    · simp only [hordem, List.map_append, List.map_cons, List.map_nil]
    · have hescrita : ¬ (escritaDe c existe).Consulta := by
        cases existe <;> exact not_false
      exact List.forall_mem_append.mpr ⟨hconsulta, List.forall_mem_cons.mpr
        ⟨hescrita, List.forall_mem_singleton.mpr not_false⟩⟩

/-- Every step keeps the account, if a call starts only when none is under way. -/
lemma Vista.Sequencial.passa {gen : RowIds} {m : Int → Bool} {l : Option CarroComId} {v v' : Vista}
    (h : v.Sequencial m) (hp : Vista.Passa gen l v v') (hlivre : l ≠ none → Livre v.chamadas) :
    v'.Sequencial m := by
  obtain ⟨hguardado, hassentado, hcertos, hfase⟩ := h
  cases hp with
  | nada => exact ⟨hguardado, hassentado, hcertos, hfase⟩
  | favoritar _ c =>
    refine ⟨hguardado, ?_, hcertos, hfase.favoritar (hlivre (by simp)) c⟩
    rw [assentar, List.foldl_append]
    exact hassentado
  | recarregar =>
    refine ⟨hguardado, ?_, hcertos, hfase.recarregar⟩
    rw [assentar, List.foldl_append]
    exact hassentado
  | executar _ hfila hexec =>
    obtain ⟨hguardado', hmembros, -, hresponde⟩ := Comando.of_executar hguardado hexec
    refine ⟨hguardado', ?_, hcertos, hfase.executar hfila hresponde hassentado⟩
    rw [hfila] at hassentado
    rw [hmembros]
    exact hassentado
  | responder _ hexistes hk =>
    exact ⟨hguardado, hassentado, hcertos, hfase.responder hexistes hk⟩
  | @continuar _ k c existe hk =>
    obtain ⟨hlido, hfase'⟩ := hfase.continuar hk
    refine ⟨hguardado, ?_, ?_, hfase'⟩
    · rw [List.map_append, List.map_singleton, depoisDe_concat, ← hassentado, assentar,
        List.foldl_append]
      change (escritaDe c existe).efeito (assentar (membros v.banco) v.fila) = _
      rw [hassentado, hlido, efeito_escritaDe]
    · rw [List.map_append, List.map_singleton, retornosDe_concat, ← hcertos, hlido]

/-! ## Runs -/

/-- No call of `Favoritar` starts while another one is under way. -/
def SemSobreposicao (s : Sistema) : Passo → Prop
  | .favoritar _ => Livre s.chamadas
  | _ => True

/-- What was announced last is the list in the model. -/
def Sistema.Avisado (s : Sistema) : Prop := s.avisos = [] ∨ s.avisos.getLast? = some s.carros

/-- Every step keeps what was announced last in the model. -/
lemma Sistema.Avisado.step {gen : RowIds} {s s' : Sistema} {p : Passo} (hs : s.Avisado)
    (h : FavoritosModel.step gen s p = some s') : s'.Avisado := by
  rcases (step_vista h).2 with ⟨hcarros, havisos⟩ | havisos
  · rw [Sistema.Avisado, hcarros, havisos]
    exact hs
  · rw [Sistema.Avisado, havisos]
    exact .inr List.getLast?_concat

/-- The first step makes the model consistent: it starts a call or a reload. -/
lemma Sistema.Inicial.consistente_step {gen : RowIds} {s s' : Sistema} {p : Passo}
    (h : s.Inicial) (hstep : FavoritosModel.step gen s p = some s') : s'.vista.Consistente := by
  cases p with
  | favoritar c =>
    obtain rfl := Option.some.inj hstep
    refine .inr (.inr ⟨.consultando c, ?_, by simp [Chamada.ativa]⟩)
    exact List.mem_append_right _ (List.mem_singleton_self _)
  | recarregar =>
    obtain rfl := Option.some.inj hstep
    refine .inl ?_
    simpa only [Sistema.vista, List.append_assoc] using coberta_concat (s.emitidos ++ s.espera)
  | retomar => simp [FavoritosModel.step, h.quieto.espera] at hstep
  | executar => simp [FavoritosModel.step, h.quieto.emitidos] at hstep
  | responder => simp [FavoritosModel.step, h.quieto.respostas] at hstep
  | continuar k => simp [FavoritosModel.step, h.chamadas] at hstep
  | atribuir => simp [FavoritosModel.step, h.quieto.recebidas] at hstep

/-- Before any call, none has returned and the favourites are what they are. -/
lemma Sistema.Inicial.sequencial {s : Sistema} (h : s.Inicial) :
    s.vista.Sequencial (membros s.banco) where
  guardado := h.guardado
  assentado := by
    simp only [Sistema.vista, h.quieto.espera, h.quieto.emitidos, h.retornos]
    rfl
  certos := by
    simp only [Sistema.vista, h.retornos]
    rfl
  fase := by
    refine .livre h.quieto.chamadas ?_ ?_ ?_
    · simp only [Sistema.vista, h.iniciadas, h.retornos]
      rfl
    · simp only [Sistema.vista, h.quieto.espera, h.quieto.emitidos]
      simp
    · simp only [Sistema.vista, h.quieto.respostas]
      rfl

/-- When nothing is pending, a consistent model has told its listeners the join of the tables. -/
lemma Sistema.Quieto.avisos_eq {s : Sistema} (h : s.Quieto) (hs : s.vista.Consistente) :
    ∃ cs, s.avisos.getLast? = some cs ∧ getCarros s.banco = .ok cs := by
  have hfila : s.vista.fila = [] := by simp [Sistema.vista, h.emitidos, h.espera]
  have hvalores : s.vista.valores = s.avisos := by
    simp [Sistema.vista, h.recebidas, h.respostas]
  rcases hs with ⟨antes, depois, hcoberta, -⟩ | ⟨-, cs, hlast, hget⟩ | ⟨ch, hch, hativa⟩
  · rw [hfila] at hcoberta
    simp at hcoberta
  · rw [hvalores] at hlast
    exact ⟨cs, hlast, hget⟩
  · exact absurd (h.chamadas ch hch) hativa

/-- When nothing is pending, every call has returned and the queue is empty. -/
lemma Sistema.Quieto.sequencial_eq {s : Sistema} {m : Int → Bool} (h : s.Quieto)
    (hs : s.vista.Sequencial m) :
    s.retornos = retornosDe m s.iniciadas ∧ membros s.banco = depoisDe m s.iniciadas := by
  have hfila : s.vista.fila = [] := by simp [Sistema.vista, h.emitidos, h.espera]
  have hnenhuma : ∀ {k : ℕ} {ch : Chamada}, s.chamadas[k]? = some ch → ch.ativa = none :=
    fun hk => h.chamadas _ (List.mem_of_getElem? hk)
  have hordem : s.iniciadas = s.retornos.map Prod.fst := by
    cases hs.fase with
    | livre _ hordem => exact hordem
    | esperando _ hk => cases hnenhuma hk
    | respondida _ hk => cases hnenhuma hk
    | lida _ hk => cases hnenhuma hk
  have hassentado := hs.assentado
  rw [hfila] at hassentado
  rw [hordem]
  exact ⟨hs.certos, hassentado⟩

end FavoritosModel

open FavoritosModel

/-- **The favourites and their model.**  However reloads and calls of `Favoritar` overlap, when
nothing is pending the list in the model is the join of the tables and was announced after it was
assigned; and if no two calls of `Favoritar` overlap, each returned whether its car is a favourite
after it, and the favourites are what the calls one after the other leave. -/
theorem favoritosModel_consistente (gen : RowIds) (s₀ s : Sistema) (passos : List Passo)
    (hinicial : s₀.Inicial) (hpassos : passos ≠ [])
    (hrun : StepRun.run (FavoritosModel.step gen) s₀ passos = some s) (hquieto : s.Quieto) :
    getCarros s.banco = .ok s.carros ∧ s.avisos.getLast? = some s.carros ∧
      (StepRun.RunMeets (FavoritosModel.step gen) SemSobreposicao s₀ passos →
        s.retornos = retornosDe (membros s₀.banco) s.iniciadas ∧
          membros s.banco = depoisDe (membros s₀.banco) s.iniciadas) := by
  have havisado : s.Avisado :=
    StepRun.run_invariant_of_step (fun _ _ _ hI hstep => hI.step hstep) (.inl hinicial.avisos) hrun
  have hconsistente : s.vista.Consistente := by
    obtain ⟨p, passos, rfl⟩ := List.exists_cons_of_ne_nil hpassos
    obtain ⟨s₁, hp, hrest⟩ := StepRun.run_cons_eq_some.mp hrun
    have hinv : s.vista.Consistente ∧ Guardado s.vista.banco := by
      refine StepRun.run_invariant_of_step
        (I := fun s => s.vista.Consistente ∧ Guardado s.vista.banco) (fun s p s' hI hstep => ?_)
        ⟨hinicial.consistente_step hp, (step_vista hp).1.guardado hinicial.guardado⟩ hrest
      obtain ⟨hpassa, -⟩ := step_vista hstep
      exact ⟨hI.1.passa hI.2 hpassa, hpassa.guardado hI.2⟩
    exact hinv.1
  obtain ⟨cs, hlast, hget⟩ := hquieto.avisos_eq hconsistente
  have hcarros : s.carros = cs := by
    rcases havisado with hvazio | havisado
    · rw [hvazio] at hlast
      cases hlast
    · exact Option.some.inj (havisado.symm.trans hlast)
  subst hcarros
  refine ⟨hget, hlast, fun hmeets => hquieto.sequencial_eq ?_⟩
  refine StepRun.run_invariant (I := fun s => s.vista.Sequencial (membros s₀.banco))
    (fun s p s' hI hok hstep => hI.passa (step_vista hstep).1 fun hchamada => ?_)
    hinicial.sequencial hmeets hrun
  cases p with
  | favoritar c => exact hok
  | _ => exact absurd rfl hchamada

/-- A page opens, and a stored car becomes a favourite while its reload is under way. -/
theorem favoritosModel_consistente_fusca :
    let fusca : Carro := { id := some 1, nome := some "Fusca" }
    let passos : List Passo :=
      [.favoritar ⟨fusca, 1, rfl⟩, .recarregar, .retomar, .retomar, .executar, .executar,
        .responder, .responder, .continuar 0, .atribuir, .retomar, .retomar, .executar, .executar,
        .responder, .responder, .atribuir]
    ∃ (s₀ s : Sistema), FavoritoService.step .largest bancoCriado (.salvar fusca) = some s₀.banco ∧
      StepRun.run (FavoritosModel.step .largest) s₀ passos = some s ∧
      getCarros s.banco = .ok s.carros ∧ s.avisos.getLast? = some s.carros ∧
      s.avisos = [[], [fusca]] ∧ s.retornos.map Prod.snd = [true] ∧
      s.retornos = retornosDe (membros s₀.banco) s.iniciadas ∧
      membros s.banco = depoisDe (membros s₀.banco) s.iniciadas := by
  intro fusca passos
  have hsalvo : (FavoritoService.step .largest bancoCriado (.salvar fusca)).isSome = true := by
    decide +kernel
  obtain ⟨banco, hbanco⟩ := Option.isSome_iff_exists.mp hsalvo
  have hguardado : Guardado banco := Guardado.step ⟨_, _, guarda_bancoCriado⟩ hbanco
  let s₀ : Sistema := ⟨banco, [], [], [], [], [], [], [], [], []⟩
  have hinicial : s₀.Inicial :=
    ⟨⟨rfl, rfl, rfl, rfl, fun ch hch => by cases hch⟩, rfl, rfl, rfl, rfl, hguardado⟩
  have hsome : (StepRun.run (FavoritosModel.step .largest) s₀ passos).isSome = true := by
    obtain rfl := Option.some.inj hbanco
    rfl
  obtain ⟨s, hrun⟩ := Option.isSome_iff_exists.mp hsome
  have hfim : s.Quieto ∧ s.avisos = [[], [fusca]] ∧ s.retornos.map Prod.snd = [true] := by
    obtain rfl := Option.some.inj hbanco
    obtain rfl := Option.some.inj hrun
    refine ⟨⟨rfl, rfl, rfl, rfl, ?_⟩, rfl, rfl⟩
    exact List.forall_mem_singleton.mpr rfl
  obtain ⟨hquieto, havisos, hretornos⟩ := hfim
  obtain ⟨hcarros, hlast, hsequencial⟩ := favoritosModel_consistente .largest s₀ s passos hinicial
    (List.cons_ne_nil _ _) hrun hquieto
  refine ⟨s₀, s, hbanco, hrun, hcarros, hlast, havisos, hretornos, hsequencial ⟨?_, fun s' _ => ?_⟩⟩
  · exact fun ch hch => by cases hch
  · exact StepRun.runMeets_of_forall (by simp [SemSobreposicao]) s'

end Carros
