import Carros.Http.Helper
import Carros.Session.Codec

/-!
# The API login

`LoginApi.login` of `pages/login/login_api.dart`, split at its `await`s.  `receber` goes from the
outcome of the request to the save of the user, or to the error response; `conferir` goes from the
answer to the read that follows the save to the end.  The `catch` surrounds both, so neither
throws.  `login` is the whole call, from the request on.
-/

namespace Carros

open Dart

variable {σ : Type} {ρ : Type*}

namespace LoginApi

/-- How far `login` has come after the outcome of its request. -/
inductive Receber where
  /-- The user was saved as `text`, and a read of the session was started. -/
  | salvo (user : Usuario) (text : String)
  /-- The login is over, with an error response. -/
  | falha (response : ApiResponse Usuario)

/-- The error response of the `catch`. -/
def msgLogin : ApiResponse Usuario := .failure (some "Nao foi possivel fazer o login")

/-- The `try` from the outcome of the request on: the body is decoded before the status is looked
at. -/
def tentar (answer : Except DartError Response) : Except DartError Receber := do
  let response ← answer
  match jsonDecode response.body with
  | none => .error .formatException
  | some d => do
    let mapResponse ← d.asMap
    if response.statusCode = 200 then
      let user ← Usuario.fromJson mapResponse
      let text ← user.saveText
      return .salvo user text
    else
      let msg ← (mapResponse.get "error").asString
      return .falha (.failure msg)

/-- `login` from the outcome of the request on. -/
def receber (answer : Except DartError Response) : Receber :=
  match tentar answer with
  | .ok stage => stage
  | .error _ => .falha msgLogin

/-- `login` from the answer to its read on, which it prints. -/
def conferir (user : Usuario) (stored : Option String) : ApiResponse Usuario :=
  let tried : Except DartError Unit := do
    let user2 ← Usuario.get stored
    match user2 with
    | none => return ()
    | some user2 => user2.printed
  match tried with
  | .ok _ => .success (some user)
  | .error _ => msgLogin

/-- The request of a login; the name of its one header is spelled as the source has it. -/
def pedido (login password : Option String) : Request :=
  { method := .post
    url := "https://carros-springboot.herokuapp.com/api/v2/login"
    headers := [("Context-Type", "application/json")]
    body := some (jsonEncode
      (.map [("username", .ofString login), ("password", .ofString password)])) }

/-- `login`: the response, the preferences as it leaves them, and the world. -/
def login (transport : Transport σ) (login password : Option String) (prefs : Prefs ρ) (w : σ) :
    ApiResponse Usuario × Prefs ρ × σ :=
  let (answer, w') := transport (pedido login password) w
  match receber answer with
  | .falha response => (response, prefs, w')
  | .salvo user text =>
    -- The read is answered once the write, and all that was issued before it, has taken effect.
    let prefs' := (prefs.issue (.write text)).drain
    (conferir user prefs'.value, prefs', w')

/-- A user that `fromJson` decodes has roles. -/
lemma roles_of_fromJson {json : DynMap} {user : Usuario} (h : Usuario.fromJson json = .ok user) :
    user.roles ≠ none := by
  obtain ⟨id, -, h⟩ := bind_eq_ok.mp h
  obtain ⟨login, -, h⟩ := bind_eq_ok.mp h
  obtain ⟨nome, -, h⟩ := bind_eq_ok.mp h
  obtain ⟨email, -, h⟩ := bind_eq_ok.mp h
  obtain ⟨urlFoto, -, h⟩ := bind_eq_ok.mp h
  obtain ⟨token, -, h⟩ := bind_eq_ok.mp h
  obtain ⟨roles, -, h⟩ := bind_eq_ok.mp h
  obtain rfl := Except.ok.inj h
  simp

/-- How far the `try` can come: a user with roles and an `int` as its id was saved as its text, or
the server refused. -/
lemma tentar_eq_ok {answer : Except DartError Response} {stage : Receber}
    (h : tentar answer = .ok stage) :
    match stage with
    | .salvo user text => user.roles ≠ none ∧ user.IdInt64 ∧ user.saveText = .ok text
    | .falha response => response.ok = false := by
  rw [tentar] at h
  obtain ⟨response, -, h⟩ := bind_eq_ok.mp h
  cases hbody : jsonDecode response.body with
  | none => simp [hbody] at h
  | some d =>
    simp only [hbody] at h
    obtain ⟨map, hmap, h⟩ := bind_eq_ok.mp h
    rw [Dyn.asMap_eq_ok.mp hmap] at hbody
    split at h
    · obtain ⟨user, huser, h⟩ := bind_eq_ok.mp h
      obtain ⟨text, htext, h⟩ := bind_eq_ok.mp h
      obtain rfl := Except.ok.inj h
      exact ⟨roles_of_fromJson huser, Usuario.idInt64_of_fromJson hbody huser, htext⟩
    · obtain ⟨msg, -, h⟩ := bind_eq_ok.mp h
      obtain rfl := Except.ok.inj h
      rfl

/-- What a login saves is read back as the user it logged in. -/
theorem get_of_receber {answer : Except DartError Response} {user : Usuario} {text : String}
    (h : receber answer = .salvo user text) : Usuario.get (some text) = .ok (some user) := by
  unfold receber at h
  split at h
  · rename_i stage hstage
    subst h
    obtain ⟨hroles, hid, htext⟩ := tentar_eq_ok hstage
    rw [Usuario.get_saveText hid htext, if_neg hroles]
  · cases h

/-- A login that ends before its `save` failed. -/
lemma ok_of_receber {answer : Except DartError Response} {response : ApiResponse Usuario}
    (h : receber answer = .falha response) : response.ok = false := by
  unfold receber at h
  split at h
  · rename_i stage hstage
    subst h
    exact tentar_eq_ok hstage
  · obtain rfl := Receber.falha.inj h
    rfl

end LoginApi

end Carros
