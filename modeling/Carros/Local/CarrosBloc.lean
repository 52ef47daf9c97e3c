import Carros.Http.CarrosApi
import Carros.Local.CarroDAO

/-!
# Fetching a list of cars

`isNetworkOn` of `utils/network.dart` and `CarrosBloc.fetch` of `pages/carros/carros_bloc.dart`.
A call adds one event to the stream of its bloc, a list or an error, and starts saves of the cars
it received without waiting for them.
-/

namespace Carros

open Dart Sql

variable {σ : Type}

/-- `ConnectivityResult`. -/
inductive ConnectivityResult where
  | wifi
  | mobile
  | none
  deriving DecidableEq, Repr

/-- `isNetworkOn`: `null` without a connection. -/
def isNetworkOn : ConnectivityResult → Option Bool
  | .mobile => some false
  | .wifi => some true
  | .none => none

namespace CarrosBloc

/-- What a call does once its await is over: the event it adds, and the cars it starts saving. -/
structure Fetch where
  event : Except DartError (List Carro)
  saves : List Carro

/-- The end of the online branch, from the outcome of `getCarros` on. -/
def online : Except DartError (List Carro) → Fetch
  | .ok carros => ⟨.ok carros, if carros.isEmpty then [] else carros⟩
  | .error e => ⟨.error e, []⟩

/-- The branch that reads the local table. -/
def offline (db : Database) (tipo : String) : Fetch :=
  ⟨CarroDAO.findAllByTipo db (some tipo), []⟩

/-- `fetch`. -/
def fetch (transport : Transport σ) (stored : Option String) (connectivity : ConnectivityResult)
    (db : Database) (tipo : String) (w : σ) : Fetch × σ :=
  match isNetworkOn connectivity with
  | none => (⟨.error .assertionError, []⟩, w)
  | some false => (offline db tipo, w)
  | some true =>
    let (carros, w') := CarrosApi.getCarros transport stored tipo w
    (online carros, w')

/-- The saves a call has started, once all of them have completed in the order given. -/
def completar (gen : RowIds) (db : Database) (saves : List Carro) : Except DartError Database :=
  saves.foldlM (fun db c => (CarroDAO.save db gen c).map Prod.snd) db

/-- Every list a call receives is saved in full. -/
@[simp] lemma online_ok (carros : List Carro) : online (.ok carros) = ⟨.ok carros, carros⟩ := by
  cases carros <;> rfl

end CarrosBloc

end Carros
