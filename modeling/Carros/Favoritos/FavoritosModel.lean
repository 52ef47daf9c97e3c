import Carros.Favoritos.LocalJoin

/-!
# The model of the favourites

`FavoritosModel` of `pages/favoritos/favoritos_model.dart`, and the calls of
`FavoritoService.Favoritar` that reload it, running side by side.

A method of a data access object first waits for the handle of the database, then issues its
statement and waits for the answer.  The database is open, so the waits on the handle are resumed in
the order in which they were reached; the statements are executed and answered in the order in which
they were issued.  `Favoritar` waits for the answer to its query, starts its write without waiting
for it and starts a reload of the model; what a reload receives it assigns and announces.

`Vista` is the system with the stages of a statement forgotten: one queue of statements not executed
yet, the answers of queries not delivered yet, and the lists that were or will be assigned.
`step_vista` proves that every step of the system is a step of this simpler machine; what is kept by
all steps is proved on the simpler machine only.
-/

namespace Carros

open Dart Sql FavoritoService

/-- A car with an id. -/
structure CarroComId where
  carro : Carro
  id : Int
  id_eq : carro.id = some id

namespace FavoritosModel

/-! ## The system -/

/-- A statement. -/
inductive Comando where
  /-- The query of call `k` for the favourite of a car. -/
  | consulta (k : ℕ) (c : CarroComId)
  | apagar (c : CarroComId)
  | salvar (c : CarroComId)
  /-- The join of a reload. -/
  | juncao

/-- An answer of the database. -/
inductive Resposta where
  | existe (k : ℕ) (b : Bool)
  | escrita
  | carros (cs : List Carro)

/-- How far a call of `Favoritar` has come. -/
inductive Chamada where
  | consultando (c : CarroComId)
  | consultado (c : CarroComId) (existe : Bool)
  | fim

/-- The car of a call that has not returned yet. -/
def Chamada.ativa : Chamada → Option CarroComId
  | .consultando c => some c
  | .consultado c _ => some c
  | .fim => none

/-- The database, the statements that wait for the handle, those that were issued, the answers on
their way, the lists that reloads have received, the calls of `Favoritar` with the cars they were
made with, the field `carros`, the values it had when the listeners were notified, and what the
calls returned. -/
structure Sistema where
  banco : Database
  espera : List Comando
  emitidos : List Comando
  respostas : List Resposta
  recebidas : List (List Carro)
  chamadas : List Chamada
  iniciadas : List CarroComId
  carros : List Carro
  avisos : List (List Carro)
  retornos : List (CarroComId × Bool)

/-- What can happen. -/
inductive Passo where
  /-- `Favoritar` is called. -/
  | favoritar (c : CarroComId)
  /-- `FavoritosModel.getCarros` is called by a page. -/
  | recarregar
  /-- The oldest wait on the handle is over, and its statement is issued. -/
  | retomar
  /-- The oldest issued statement is executed. -/
  | executar
  /-- The oldest answer is delivered. -/
  | responder
  /-- Call `k` goes on after its query. -/
  | continuar (k : ℕ)
  /-- The oldest list received is assigned, and the listeners are notified. -/
  | atribuir

/-- Executing a statement: its answer, and the database. -/
def Comando.executar (gen : RowIds) (banco : Database) :
    Comando → Except DartError (Resposta × Database)
  | .consulta k c => do
    let b ← FavoritoDAO.existsId banco c.carro.id
    return (.existe k b, banco)
  | .apagar c => do
    let (_, banco') ← FavoritoDAO.delete banco c.carro.id
    return (.escrita, banco')
  | .salvar c => do
    let (_, banco') ← FavoritoDAO.save banco gen (Favorito.fromCarro c.carro)
    return (.escrita, banco')
  | .juncao => do
    let cs ← getCarros banco
    return (.carros cs, banco)

/-- The write `Favoritar` starts. -/
def escritaDe (c : CarroComId) (existe : Bool) : Comando := if existe then .apagar c else .salvar c

/-- One step; a statement that fails does not happen. -/
def step (gen : RowIds) (s : Sistema) : Passo → Option Sistema
  | .favoritar c =>
    some { s with
      chamadas := s.chamadas ++ [.consultando c]
      iniciadas := s.iniciadas ++ [c]
      espera := s.espera ++ [.consulta s.chamadas.length c] }
  | .recarregar => some { s with espera := s.espera ++ [.juncao] }
  | .retomar =>
    match s.espera with
    | [] => none
    | comando :: espera => some { s with espera, emitidos := s.emitidos ++ [comando] }
  | .executar =>
    match s.emitidos with
    | [] => none
    | comando :: emitidos =>
      match comando.executar gen s.banco with
      | .error _ => none
      | .ok (r, banco) => some { s with banco, emitidos, respostas := s.respostas ++ [r] }
  | .responder =>
    match s.respostas with
    | [] => none
    | .existe k b :: respostas =>
      match s.chamadas[k]? with
      | some (.consultando c) =>
        some { s with respostas, chamadas := s.chamadas.set k (.consultado c b) }
      | _ => none
    | .escrita :: respostas => some { s with respostas }
    | .carros cs :: respostas => some { s with respostas, recebidas := s.recebidas ++ [cs] }
  | .continuar k =>
    match s.chamadas[k]? with
    | some (.consultado c existe) =>
      -- The write reaches its wait on the handle before the join of the reload does.
      some { s with
        chamadas := s.chamadas.set k .fim
        espera := s.espera ++ [escritaDe c existe, .juncao]
        retornos := s.retornos ++ [(c, !existe)] }
    | _ => none
  | .atribuir =>
    match s.recebidas with
    | [] => none
    | cs :: recebidas => some { s with recebidas, carros := cs, avisos := s.avisos ++ [cs] }

/-- Nothing is pending. -/
structure Sistema.Quieto (s : Sistema) : Prop where
  espera : s.espera = []
  emitidos : s.emitidos = []
  respostas : s.respostas = []
  recebidas : s.recebidas = []
  chamadas : ∀ ch ∈ s.chamadas, ch.ativa = none

/-- The app before any call: tables that hold cars and favourites, and whatever list in the
model. -/
structure Sistema.Inicial (s : Sistema) : Prop where
  quieto : s.Quieto
  chamadas : s.chamadas = []
  iniciadas : s.iniciadas = []
  avisos : s.avisos = []
  retornos : s.retornos = []
  guardado : Guardado s.banco

/-! ## The simpler machine -/

/-- The cars in an answer. -/
def Resposta.comoCarros : Resposta → Option (List Carro)
  | .carros cs => some cs
  | _ => none

/-- The outcome of a query in an answer. -/
def Resposta.comoExiste : Resposta → Option (ℕ × Bool)
  | .existe k b => some (k, b)
  | _ => none

/-- The system without the stages of a statement. -/
structure Vista where
  banco : Database
  fila : List Comando
  existes : List (ℕ × Bool)
  valores : List (List Carro)
  chamadas : List Chamada
  iniciadas : List CarroComId
  retornos : List (CarroComId × Bool)

/-- What the simpler machine sees. -/
def Sistema.vista (s : Sistema) : Vista where
  banco := s.banco
  fila := s.emitidos ++ s.espera
  existes := s.respostas.filterMap Resposta.comoExiste
  valores := s.avisos ++ (s.recebidas ++ s.respostas.filterMap Resposta.comoCarros)
  chamadas := s.chamadas
  iniciadas := s.iniciadas
  retornos := s.retornos

/-- The car of a step that calls `Favoritar`. -/
def Passo.chamada : Passo → Option CarroComId
  | .favoritar c => some c
  | _ => none

/-- The steps of the simpler machine, with the car of a step that calls `Favoritar`. -/
inductive Vista.Passa (gen : RowIds) : Option CarroComId → Vista → Vista → Prop where
  /-- Nothing the machine sees changes. -/
  | nada (v : Vista) : Passa gen none v v
  | favoritar (v : Vista) (c : CarroComId) :
    Passa gen (some c) v { v with
      chamadas := v.chamadas ++ [.consultando c]
      iniciadas := v.iniciadas ++ [c]
      fila := v.fila ++ [.consulta v.chamadas.length c] }
  | recarregar (v : Vista) : Passa gen none v { v with fila := v.fila ++ [.juncao] }
  | executar (v : Vista) {comando : Comando} {fila : List Comando} {r : Resposta}
    {banco : Database} (hfila : v.fila = comando :: fila)
    (hexec : comando.executar gen v.banco = .ok (r, banco)) :
    Passa gen none v { v with
      banco, fila
      existes := v.existes ++ r.comoExiste.toList
      valores := v.valores ++ r.comoCarros.toList }
  | responder (v : Vista) {k : ℕ} {b : Bool} {existes : List (ℕ × Bool)} {c : CarroComId}
    (hexistes : v.existes = (k, b) :: existes) (hk : v.chamadas[k]? = some (.consultando c)) :
    Passa gen none v { v with existes, chamadas := v.chamadas.set k (.consultado c b) }
  | continuar (v : Vista) {k : ℕ} {c : CarroComId} {existe : Bool}
    (hk : v.chamadas[k]? = some (.consultado c existe)) :
    Passa gen none v { v with
      chamadas := v.chamadas.set k .fim
      fila := v.fila ++ [escritaDe c existe, .juncao]
      retornos := v.retornos ++ [(c, !existe)] }

/-- **Steps.**  Every step of the system is a step of the simpler machine, and leaves the list in
the model alone or announces it. -/
theorem step_vista {gen : RowIds} {s s' : Sistema} {p : Passo} (h : step gen s p = some s') :
    Vista.Passa gen p.chamada s.vista s'.vista ∧
      ((s'.carros = s.carros ∧ s'.avisos = s.avisos) ∨ s'.avisos = s.avisos ++ [s'.carros]) := by
  cases p with
  | favoritar c =>
    obtain rfl := Option.some.inj h
    refine ⟨?_, .inl ⟨rfl, rfl⟩⟩
    simpa only [Sistema.vista, Passo.chamada, List.append_assoc] using
      Vista.Passa.favoritar s.vista c
  | recarregar =>
    obtain rfl := Option.some.inj h
    refine ⟨?_, .inl ⟨rfl, rfl⟩⟩
    simpa only [Sistema.vista, Passo.chamada, List.append_assoc] using
      Vista.Passa.recarregar s.vista
  | retomar =>
    simp only [step] at h
    split at h
    · cases h
    · rename_i comando espera hespera
      obtain rfl := Option.some.inj h
      refine ⟨?_, .inl ⟨rfl, rfl⟩⟩
      have hvista :
          ({ s with espera, emitidos := s.emitidos ++ [comando] } : Sistema).vista = s.vista := by
        simp only [Sistema.vista, hespera, List.append_assoc, List.singleton_append]
      rw [hvista]
      exact .nada _
  | executar =>
    simp only [step] at h
    split at h
    · cases h
    rename_i comando emitidos hemitidos
    split at h
    · cases h
    rename_i r banco hexec
    obtain rfl := Option.some.inj h
    refine ⟨?_, .inl ⟨rfl, rfl⟩⟩
    have hfila : s.vista.fila = comando :: (emitidos ++ s.espera) := by
      simp only [Sistema.vista, hemitidos, List.cons_append]
    have hexistes : (s.respostas ++ [r]).filterMap Resposta.comoExiste =
        s.respostas.filterMap Resposta.comoExiste ++ r.comoExiste.toList := by
      rw [List.filterMap_append]
      cases r <;> rfl
    have hcarros : (s.respostas ++ [r]).filterMap Resposta.comoCarros =
        s.respostas.filterMap Resposta.comoCarros ++ r.comoCarros.toList := by
      rw [List.filterMap_append]
      cases r <;> rfl
    have hpassa := Vista.Passa.executar s.vista hfila hexec
    simpa only [Sistema.vista, Passo.chamada, hexistes, hcarros, List.append_assoc] using hpassa
  | responder =>
    simp only [step] at h
    split at h
    · cases h
    · rename_i k b respostas hrespostas
      split at h
      · rename_i c hk
        obtain rfl := Option.some.inj h
        refine ⟨?_, .inl ⟨rfl, rfl⟩⟩
        have hexistes : s.vista.existes = (k, b) :: respostas.filterMap Resposta.comoExiste := by
          simp only [Sistema.vista, hrespostas]
          rfl
        have hcarros : s.respostas.filterMap Resposta.comoCarros =
            respostas.filterMap Resposta.comoCarros := by
          rw [hrespostas]
          rfl
        simpa only [Sistema.vista, Passo.chamada, hcarros] using
          Vista.Passa.responder s.vista hexistes hk
      · cases h
    · rename_i respostas hrespostas
      obtain rfl := Option.some.inj h
      refine ⟨?_, .inl ⟨rfl, rfl⟩⟩
      have hvista : ({ s with respostas } : Sistema).vista = s.vista := by
        simp only [Sistema.vista, hrespostas]
        rfl
      rw [hvista]
      exact .nada _
    · rename_i cs respostas hrespostas
      obtain rfl := Option.some.inj h
      refine ⟨?_, .inl ⟨rfl, rfl⟩⟩
      have hvista :
          ({ s with respostas, recebidas := s.recebidas ++ [cs] } : Sistema).vista = s.vista := by
        simp only [Sistema.vista, hrespostas, List.append_assoc]
        rfl
      rw [hvista]
      exact .nada _
  | continuar k =>
    simp only [step] at h
    split at h
    · rename_i c existe hk
      obtain rfl := Option.some.inj h
      refine ⟨?_, .inl ⟨rfl, rfl⟩⟩
      simpa only [Sistema.vista, Passo.chamada, List.append_assoc] using
        Vista.Passa.continuar s.vista hk
    · cases h
  | atribuir =>
    simp only [step] at h
    split at h
    · cases h
    · rename_i cs recebidas hrecebidas
      obtain rfl := Option.some.inj h
      refine ⟨?_, .inr rfl⟩
      have hvista :
          ({ s with recebidas, carros := cs, avisos := s.avisos ++ [cs] } : Sistema).vista =
            s.vista := by
        simp only [Sistema.vista, hrecebidas, List.append_assoc, List.nil_append,
          List.cons_append]
      rw [hvista]
      exact .nada _

end FavoritosModel

end Carros
