import Carros.Local.CarrosBloc

/-!
# What a tab shows

The builder of the `StreamBuilder` in `build` of `pages/carros/carros_page.dart`, after any number
of calls of `CarrosBloc.fetch` on the page, one after the other.  A snapshot holds the last event:
after a list its data and no error, after an error the error and no data.

`esperada` is what the builder has a branch for: the progress indicator before the first event, then
the list or the error of the last one.  The branch of the error stands behind the test for data, so
`vista_eq_esperada_iff` finds it only after lists.
-/

namespace Carros

open Dart Sql

variable {σ : Type}

namespace CarrosPage

/-- What the stream of a page has emitted: a list or an error. -/
abbrev Evento := Except DartError (List Carro)

/-- `AsyncSnapshot`. -/
structure Snapshot where
  data : Option (List Carro)
  error : Option DartError

namespace Snapshot

/-- The snapshot before the first event. -/
def inicio : Snapshot := ⟨none, none⟩

/-- The snapshot after an event. -/
def apos : Evento → Snapshot
  | .ok carros => ⟨some carros, none⟩
  | .error e => ⟨none, some e⟩

/-- `hasError`. -/
def hasError (snapshot : Snapshot) : Bool := snapshot.error.isSome

end Snapshot

/-- What the page shows. -/
inductive Vista where
  | progress
  | textError (msg : String)
  | listView (carros : List Carro)
  deriving DecidableEq, Repr

/-- The message of the error. -/
def msgErro : String := "Nao foi possivel buscar os carros"

/-- The builder. -/
def build (snapshot : Snapshot) : Vista :=
  match snapshot.data with
  | none => .progress
  | some carros => if snapshot.hasError then .textError msgErro else .listView carros

/-- Everything a call of `fetch` depends on but the tipo of the page. -/
structure Chamada (σ : Type) where
  transport : Transport σ
  stored : Option String
  connectivity : ConnectivityResult
  db : Database
  world : σ

/-- The event a call adds to the stream. -/
def Chamada.evento (tipo : String) (c : Chamada σ) : Evento :=
  (CarrosBloc.fetch c.transport c.stored c.connectivity c.db tipo c.world).1.event

/-- What the page shows after a list of calls. -/
def vista (tipo : String) (cs : List (Chamada σ)) : Vista :=
  build (cs.foldl (fun _ c => .apos (c.evento tipo)) .inicio)

/-- What the page is to show after a list of events. -/
def esperada (eventos : List Evento) : Vista :=
  match eventos.getLast? with
  | none => .progress
  | some (.ok carros) => .listView carros
  | some (.error _) => .textError msgErro

/-- The call gets a list: from the local table with mobile data, from the server on wifi. -/
def Chamada.Lista (tipo : String) (c : Chamada σ) : Prop :=
  match c.connectivity with
  | .none => False
  | .mobile => ∃ carros, CarroDAO.findAllByTipo c.db (some tipo) = .ok carros
  | .wifi => ∃ response carros,
    (request c.transport c.stored .get (urlTipo tipo) none c.world).1 = .ok response ∧
      CarrosApi.decodeCarros response.body = .ok carros

/-- `getCarros` returns the list in the body of the response. -/
lemma getCarros_eq_ok {transport : Transport σ} {stored : Option String} {tipo : String} {w : σ}
    {carros : List Carro} :
    (CarrosApi.getCarros transport stored tipo w).1 = .ok carros ↔
      ∃ response, (request transport stored .get (urlTipo tipo) none w).1 = .ok response ∧
        CarrosApi.decodeCarros response.body = .ok carros :=
  bind_eq_ok

/-- A call that gets a list emits one, any other call emits an error. -/
lemma Chamada.evento_eq_ok (tipo : String) (c : Chamada σ) :
    (∃ carros, c.evento tipo = .ok carros) ↔ c.Lista tipo := by
  obtain ⟨transport, stored, connectivity, db, w⟩ := c
  cases connectivity with
  | none =>
    constructor
    · rintro ⟨carros, h⟩
      cases h
    · exact False.elim
  | mobile => exact Iff.rfl
  | wifi =>
    have hevento : (Chamada.mk transport stored .wifi db w).evento tipo =
        (CarrosBloc.online (CarrosApi.getCarros transport stored tipo w).1).event := rfl
    rw [hevento]
    constructor
    · rintro ⟨carros, h⟩
      cases hget : (CarrosApi.getCarros transport stored tipo w).1 with
      | error e =>
        rw [hget] at h
        cases h
      | ok carros =>
        obtain ⟨response, hresponse⟩ := getCarros_eq_ok.mp hget
        exact ⟨response, carros, hresponse⟩
    · rintro ⟨response, carros, hresponse⟩
      rw [getCarros_eq_ok.mpr ⟨response, hresponse⟩, CarrosBloc.online_ok]
      exact ⟨carros, rfl⟩

/-- Only the last call counts. -/
lemma vista_concat (tipo : String) (cs : List (Chamada σ)) (c : Chamada σ) :
    vista tipo (cs ++ [c]) = build (.apos (c.evento tipo)) := by
  rw [vista, List.foldl_append]
  rfl

/-- Only the last event counts. -/
lemma esperada_concat (eventos : List Evento) (evento : Evento) :
    esperada (eventos ++ [evento]) = esperada [evento] := by
  rw [esperada, List.getLast?_concat]
  rfl

/-- After an error the progress indicator stays. -/
@[simp] lemma build_apos_error (e : DartError) : build (.apos (.error e)) = .progress := rfl

/-- After a list it is shown. -/
@[simp] lemma build_apos_ok (carros : List Carro) : build (.apos (.ok carros)) = .listView carros :=
  rfl

end CarrosPage

open CarrosPage in
/-- **The tab and the last fetch.**  After any calls of `fetch`, one after the other, the page shows
what it is to show exactly if there was no call or the last one got a list. -/
theorem vista_eq_esperada_iff (tipo : String) (cs : List (Chamada σ)) :
    vista tipo cs = esperada (cs.map (Chamada.evento tipo)) ↔
      ∀ c, cs.getLast? = some c → c.Lista tipo := by
  rcases List.eq_nil_or_concat' cs with rfl | ⟨cs, c, rfl⟩
  · exact ⟨fun _ c h => (by cases h), fun _ => rfl⟩
  · rw [List.map_append, List.map_singleton, vista_concat, esperada_concat, List.getLast?_concat]
    have hlast : (∀ d, some c = some d → d.Lista tipo) ↔ c.Lista tipo := by simp
    rw [hlast, ← c.evento_eq_ok]
    cases hevento : c.evento tipo with
    | ok carros => simp [esperada]
    | error e => simp [esperada]

open CarrosPage in
/-- A fetch without a session on wifi, as the first one: the progress indicator stays although an
error was emitted. -/
theorem vista_eq_esperada_fails :
    let c : Chamada Unit := ⟨fun _ w => (.error .transport, w), none, .wifi, bancoCriado, ()⟩
    c.evento "classicos" = .error .noSuchMethod ∧ vista "classicos" [c] = .progress ∧
      esperada [c.evento "classicos"] = .textError "Nao foi possivel buscar os carros" := by
  intro c
  exact ⟨rfl, rfl, rfl⟩

end Carros
