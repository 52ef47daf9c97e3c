import Carros.Local.Cache

/-!
# Where the list comes from

`CarrosBloc.fetch` asks `isNetworkOn` whether to go to the server or to the local table.
`isNetworkOn` says no for mobile data and nothing at all without a connection, and the negation of
`null` throws inside the `try`.

`esperado` is what the answer about the connection is for: the server with any connection, the
local table without one.  `fetch_eq_esperado_iff` compares the two, requests included.
-/

namespace Carros

open Dart Sql

variable {σ : Type}

namespace CarrosBloc

/-- The list from where the connection says: the server, cached, with any connection, and the local
table without one. -/
def esperado (transport : Transport σ) (stored : Option String)
    (connectivity : ConnectivityResult) (db : Database) (tipo : String) (w : σ) : Fetch × σ :=
  match connectivity with
  | .none => (offline db tipo, w)
  | .wifi | .mobile =>
    let (carros, w') := CarrosApi.getCarros transport stored tipo w
    (online carros, w')

/-- The table of the cars is there. -/
def TemTabela (db : Database) : Prop :=
  ∃ t, db.lookup "carro" = some t ∧ t.columns = colunasCarro

/-- Reading the table of the cars goes through. -/
lemma event_offline {db : Database} (h : TemTabela db) (tipo : String) :
    ∃ cs, (offline db tipo).event = .ok cs := by
  obtain ⟨t, ht, hcols⟩ := h
  obtain ⟨m, hholds⟩ := CarroDAO.exists_holds ht hcols
  obtain ⟨cs, hcs, -⟩ := (CarroDAO.readsTipo hholds).findAllByTipo tipo
  exact ⟨cs, hcs⟩

/-- Without a connection `fetch` emits an error, where the table could be read. -/
lemma fetch_none_ne (transport : Transport σ) (stored : Option String) {db : Database}
    (h : TemTabela db) (tipo : String) (w : σ) :
    fetch transport stored .none db tipo w ≠ esperado transport stored .none db tipo w := by
  intro heq
  obtain ⟨cs, hcs⟩ := event_offline h tipo
  have hevent : (.error .assertionError : Except DartError (List Carro)) =
      (offline db tipo).event := congrArg (fun f => f.1.event) heq
  rw [hcs] at hevent
  cases hevent

/-- With mobile data `fetch` makes no request, and with a user in the session one was due; without a
user an error was due, and `fetch` reads the table. -/
lemma fetch_mobile_ne (transport : Transport σ) (stored : Option String) {db : Database}
    (h : TemTabela db) (tipo : String) (w : σ) :
    fetch (registra transport) stored .mobile db tipo (w, []) ≠
      esperado (registra transport) stored .mobile db tipo (w, []) := by
  intro heq
  cases hheaders : headers stored with
  | error e =>
    obtain ⟨cs, hcs⟩ := event_offline h tipo
    have hevent := congrArg (fun f => f.1.event) heq
    simp only [fetch, isNetworkOn, esperado, CarrosApi.getCarros, request, hheaders, hcs] at hevent
    cases hevent
  | ok hs =>
    have hrequests := congrArg (fun f => f.2.2) heq
    simp [fetch, isNetworkOn, esperado, CarrosApi.getCarros, request, hheaders,
      registra] at hrequests

end CarrosBloc

/-- **The data source follows the connection** exactly on wifi: there `fetch` sends the requests,
adds the event and saves the cars it is expected to, and on mobile data and without a connection it
never does, whatever the table, the tipo and the server. -/
theorem fetch_eq_esperado_iff (transport : Transport σ) (stored : Option String)
    (connectivity : ConnectivityResult) {db : Database} (h : CarrosBloc.TemTabela db)
    (tipo : String) (w : σ) :
    CarrosBloc.fetch (registra transport) stored connectivity db tipo (w, []) =
        CarrosBloc.esperado (registra transport) stored connectivity db tipo (w, []) ↔
      connectivity = .wifi := by
  constructor
  · intro heq
    cases connectivity with
    | wifi => rfl
    | mobile => exact absurd heq (CarrosBloc.fetch_mobile_ne transport stored h tipo w)
    | none => exact absurd heq (CarrosBloc.fetch_none_ne _ stored h tipo (w, []))
  · rintro rfl
    rfl

/-- The tables of `create.sql` have the table of the cars. -/
lemma temTabela_bancoCriado : CarrosBloc.TemTabela bancoCriado :=
  ⟨⟨colunasCarro, ∅⟩, rfl, rfl⟩

/-- With one car on the server, and a session to ask for it, wifi does what is expected, and mobile
data does not. -/
theorem fetch_eq_esperado_fusca :
    let fusca : Carro := { id := some 1, nome := some "Fusca", tipo := some "classicos" }
    let server : Transport Unit := enviarLista [fusca]
    let stored := some "\x7b\"roles\":[]\x7d"
    CarrosBloc.fetch (registra server) stored .wifi bancoCriado "classicos" ((), []) =
        CarrosBloc.esperado (registra server) stored .wifi bancoCriado "classicos" ((), []) ∧
      CarrosBloc.fetch (registra server) stored .mobile bancoCriado "classicos" ((), []) ≠
        CarrosBloc.esperado (registra server) stored .mobile bancoCriado "classicos" ((), []) := by
  intro fusca server stored
  have hiff := fun connectivity =>
    fetch_eq_esperado_iff server stored connectivity temTabela_bancoCriado "classicos" ()
  refine ⟨(hiff .wifi).mpr rfl, fun heq => ?_⟩
  cases (hiff .mobile).mp heq

/-- With one car on the server and none in the table, mobile data shows no car where wifi shows one,
and without a connection there is an error. -/
theorem fetch_eq_esperado_fails :
    let fusca : Carro := { id := some 1, nome := some "Fusca", tipo := some "classicos" }
    let server : Transport Unit := enviarLista [fusca]
    let fetch := fun connectivity =>
      (CarrosBloc.fetch server (some "\x7b\"roles\":[]\x7d") connectivity bancoCriado "classicos"
        ()).1.event
    fetch .wifi = .ok [fusca.semId] ∧ fetch .mobile = .ok [] ∧
      fetch .none = .error .assertionError ∧
      CarroDAO.findAllByTipo bancoCriado (some "classicos") = .ok [] := by
  intro fusca server fetch
  have hempty : CarroDAO.findAllByTipo bancoCriado (some "classicos") = .ok [] := rfl
  refine ⟨?_, hempty, rfl, hempty⟩
  obtain ⟨hs, hheaders⟩ := exists_headers_semRoles
  have hL : RespondeLista server (some "\x7b\"roles\":[]\x7d") "classicos" () [fusca] :=
    respondeLista_enviarLista hheaders (by simp) (by decide) (by simp [fusca]) (by simp)
      (by simp [fusca]) ()
  exact hL.fetch_event bancoCriado

end Carros
