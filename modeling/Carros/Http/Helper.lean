import Carros.Entity.Usuario

/-!
# Requests

The wrappers of `utils/http_helper.dart`, which put the headers of the signed-in user on every
request, and the class `ApiResponse` in which the services report their outcome.

The other side of a request is a `Transport`: given the request and the state of the world, it
either throws or answers, and leaves a new state of the world.
-/

namespace Carros

open Dart

/-- The methods the app uses. -/
inductive Method where
  | get
  | post
  | put
  | delete
  deriving DecidableEq, Repr

/-- A request. -/
structure Request where
  method : Method
  url : String
  headers : List (String × String)
  body : Option String
  deriving DecidableEq, Repr

/-- A response. -/
structure Response where
  statusCode : ℕ
  body : String
  deriving DecidableEq, Repr

/-- The other side of a request, over the states `σ` of the world. -/
abbrev Transport (σ : Type) := Request → σ → Except DartError Response × σ

/-- A transport that keeps the requests it is given. -/
def registra {σ : Type} (transport : Transport σ) : Transport (σ × List Request) := fun req w =>
  ((transport req w.1).1, (transport req w.1).2, w.2 ++ [req])

/-- A server that answers every request alike. -/
def responde {σ : Type} (answer : Except DartError Response) : Transport σ := fun _ w => (answer, w)

/-- `ApiResponse`: a success with its result, or an error with its message. -/
structure ApiResponse (α : Type) where
  ok : Bool
  msg : Option String
  result : Option α
  deriving DecidableEq, Repr

/-- `ApiResponse.ok`. -/
def ApiResponse.success {α : Type} (result : Option α) : ApiResponse α := ⟨true, none, result⟩

/-- `ApiResponse.error`. -/
def ApiResponse.failure {α : Type} (msg : Option String) : ApiResponse α := ⟨false, msg, none⟩

/-- `_headers`, given what is stored under `user.prefs`: it reads the token of the stored user. -/
def headers (stored : Option String) : Except DartError (List (String × String)) := do
  let user ← Usuario.get stored
  match user with
  | none => .error .noSuchMethod
  | some user =>
    return [("Content-Type", "application/json"),
      ("Authorization", "Bearer " ++ user.token.getD "null")]

/-- The headers are defined exactly when there is a user. -/
lemma headers_ok_iff (stored : Option String) :
    (∃ hs, headers stored = .ok hs) ↔ ∃ u, Usuario.get stored = .ok (some u) := by
  unfold headers
  cases Usuario.get stored with
  | error e => simp
  | ok user => cases user <;> simp [pure, Except.pure]

/-- A stored user with no roles and no other field is enough for the headers. -/
lemma exists_headers_semRoles : ∃ hs, headers (some "\x7b\"roles\":[]\x7d") = .ok hs :=
  (headers_ok_iff _).mpr ⟨{ roles := some [] }, by decide +kernel⟩

/-- `get`, `post`, `put` and `delete`: the headers first, then the request. -/
def request {σ : Type} (transport : Transport σ) (stored : Option String) (method : Method)
    (url : String) (body : Option String) (w : σ) : Except DartError Response × σ :=
  match headers stored with
  | .error e => (.error e, w)
  | .ok hs => transport ⟨method, url, hs, body⟩ w

end Carros
