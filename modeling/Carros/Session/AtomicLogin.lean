import Carros.Session.LoginApi

/-!
# The login and the stored session

`LoginApi.login` decodes the body of the answer before it looks at the status, builds a user whose
roles are cast only when they are read, writes the user without waiting for the write and reads it
straight back.  Whatever can fail in a body does so before the write: a field of the wrong type in
`Usuario.fromJson`, an element of the roles in `Usuario.save`, which has to encode them.

`login_atomico` concludes that the call either stores the user of the answer and returns it, or
returns an error and leaves the session alone, and says for which answers it does the one and for
which the other.
-/

namespace Carros

open Dart

variable {σ : Type} {ρ : Type*}

/-- The object describes the user: every scalar key has the value of its field, `null` or absent for
a field that is `null`, and the roles are a list of nullable strings. -/
structure Usuario.Descrito (map : DynMap) (user : Usuario) : Prop where
  id : map.get "id" = .ofInt user.id
  login : map.get "login" = .ofString user.login
  nome : map.get "nome" = .ofString user.nome
  email : map.get "email" = .ofString user.email
  urlFoto : map.get "urlFoto" = .ofString user.urlFoto
  token : map.get "token" = .ofString user.token
  roles : ∃ ss : List (Option String), map.get "roles" = .list (ss.map .ofString) ∧
    user.roles = some (ss.map .ok)

/-- The server accepted the login: the status is 200 and the body describes the user. -/
def LoginApi.Aceito (answer : Except DartError Response) (user : Usuario) : Prop :=
  ∃ body map, answer = .ok ⟨200, body⟩ ∧ jsonDecode body = some (.map map) ∧
    user.Descrito map

namespace Usuario

/-- What `fromJson` returns has the fields of the object. -/
lemma fromJson_eq_ok {map : DynMap} {user : Usuario} :
    fromJson map = .ok user ↔
      ((map.get "id" = .ofInt user.id ∧ map.get "login" = .ofString user.login) ∧
        (map.get "nome" = .ofString user.nome ∧ map.get "email" = .ofString user.email) ∧
        map.get "urlFoto" = .ofString user.urlFoto ∧ map.get "token" = .ofString user.token) ∧
      ∃ roles, castRoles (map.get "roles") = .ok roles ∧ user.roles = some roles := by
  constructor
  · intro h
    obtain ⟨id, hid, h⟩ := bind_eq_ok.mp h
    obtain ⟨login, hlogin, h⟩ := bind_eq_ok.mp h
    obtain ⟨nome, hnome, h⟩ := bind_eq_ok.mp h
    obtain ⟨email, hemail, h⟩ := bind_eq_ok.mp h
    obtain ⟨urlFoto, hurlFoto, h⟩ := bind_eq_ok.mp h
    obtain ⟨token, htoken, h⟩ := bind_eq_ok.mp h
    obtain ⟨roles, hroles, h⟩ := bind_eq_ok.mp h
    obtain rfl := Except.ok.inj h
    rw [Dyn.asInt_eq_ok] at hid
    rw [Dyn.asString_eq_ok] at hlogin hnome hemail hurlFoto htoken
    exact ⟨⟨⟨hid, hlogin⟩, ⟨hnome, hemail⟩, hurlFoto, htoken⟩, roles, hroles, rfl⟩
  · rintro ⟨⟨⟨hid, hlogin⟩, ⟨hnome, hemail⟩, hurlFoto, htoken⟩, roles, hcast, hroles⟩
    simp only [fromJson, hid, hlogin, hnome, hemail, hurlFoto, htoken, hcast, Dyn.asInt_ofInt,
      Dyn.asString_ofString, ok_bind]
    rw [← hroles]
    rfl

/-- Elements that are all cast to strings are those strings. -/
lemma eq_map_ofString {xs : List Dyn} {ss : List (Option String)}
    (h : xs.map Dyn.asString = ss.map .ok) : xs = ss.map Dyn.ofString := by
  induction xs generalizing ss with
  | nil =>
    obtain rfl : ss = [] := by simpa using h.symm
    rfl
  | cons x xs ih =>
    cases ss with
    | nil => simp at h
    | cons s ss =>
      rw [List.map_cons, List.map_cons, List.cons.injEq] at h
      rw [List.map_cons, ← ih h.2, Dyn.asString_eq_ok.mp h.1]

/-- An object describes a user exactly if the decoder returns the user and the encoder, which reads
the roles, writes it. -/
lemma descrito_iff {map : DynMap} {user : Usuario} :
    user.Descrito map ↔ fromJson map = .ok user ∧ ∃ text, user.saveText = .ok text := by
  rw [fromJson_eq_ok]
  constructor
  · rintro ⟨hid, hlogin, hnome, hemail, hurlFoto, htoken, ss, hlist, hroles⟩
    have hcast : castRoles (map.get "roles") = .ok (ss.map .ok) := by
      rw [hlist, castRoles_map_ofString]
    have hread : user.ReadableRoles := by
      intro roles h r hr
      obtain rfl := Option.some.inj (hroles.symm.trans h)
      obtain ⟨s, -, rfl⟩ := List.mem_map.mp hr
      exact ⟨s, rfl⟩
    exact ⟨⟨⟨⟨hid, hlogin⟩, ⟨hnome, hemail⟩, hurlFoto, htoken⟩, _, hcast, hroles⟩,
      hread.exists_saveText⟩
  · rintro ⟨⟨⟨⟨hid, hlogin⟩, ⟨hnome, hemail⟩, hurlFoto, htoken⟩, roles, hcast, hroles⟩, text,
      htext⟩
    refine ⟨hid, hlogin, hnome, hemail, hurlFoto, htoken, ?_⟩
    -- The cast succeeds on any list; that its elements are strings is known from the encoder.
    obtain ⟨ss, rfl, -⟩ := saveText_eq_ok hroles htext
    refine ⟨ss, ?_, hroles⟩
    cases hd : map.get "roles" with
    | list xs =>
      rw [hd, castRoles] at hcast
      have hxs : xs.map Dyn.asString = ss.map .ok := Except.ok.inj hcast
      exact congrArg Dyn.list (eq_map_ofString hxs)
    | _ =>
      rw [hd] at hcast
      cases hcast

end Usuario

namespace LoginApi

/-- An accepted login is saved. -/
lemma receber_of_aceito {answer : Except DartError Response} {user : Usuario}
    (h : Aceito answer user) : ∃ text, receber answer = .salvo user text := by
  obtain ⟨body, map, rfl, hbody, hdescrito⟩ := h
  obtain ⟨huser, text, htext⟩ := Usuario.descrito_iff.mp hdescrito
  refine ⟨text, ?_⟩
  have htentar : tentar (.ok ⟨200, body⟩) = .ok (.salvo user text) := by
    simp only [tentar, ok_bind, hbody, Dyn.asMap_map, if_true, huser, htext]
    rfl
  rw [receber, htentar]

/-- What is saved was accepted. -/
lemma aceito_of_receber {answer : Except DartError Response} {user : Usuario} {text : String}
    (h : receber answer = .salvo user text) : Aceito answer user := by
  have htentar : tentar answer = .ok (.salvo user text) := by
    unfold receber at h
    split at h
    · rename_i stage hstage
      rwa [h] at hstage
    · cases h
  rw [tentar] at htentar
  clear h
  obtain ⟨response, rfl, h⟩ := bind_eq_ok.mp htentar
  cases hbody : jsonDecode response.body with
  | none => simp [hbody] at h
  | some d =>
    simp only [hbody] at h
    obtain ⟨map, hmap, h⟩ := bind_eq_ok.mp h
    rw [Dyn.asMap_eq_ok.mp hmap] at hbody
    split at h
    · rename_i hstatus
      obtain ⟨user', huser, h⟩ := bind_eq_ok.mp h
      obtain ⟨text', htext, h⟩ := bind_eq_ok.mp h
      obtain ⟨rfl, rfl⟩ := Receber.salvo.inj (Except.ok.inj h)
      refine ⟨response.body, map, ?_, hbody, Usuario.descrito_iff.mpr ⟨huser, text', htext⟩⟩
      rw [← hstatus]
    · obtain ⟨msg, -, h⟩ := bind_eq_ok.mp h
      cases h

/-- A user that was just read can be printed, so the login of that user succeeds. -/
lemma conferir_eq {user : Usuario} {text : String} (hread : user.ReadableRoles)
    (hget : Usuario.get (some text) = .ok (some user)) :
    conferir user (some text) = .success (some user) := by
  have hprinted : user.printed = .ok () := by
    cases hroles : user.roles with
    | none => rw [Usuario.printed, hroles]
    | some roles =>
      obtain ⟨ss, rfl⟩ := Usuario.exists_of_forall_readable (hread roles hroles)
      rw [Usuario.printed, hroles]
      exact congrArg (Except.map fun _ => ()) (Usuario.readRoles_map_ok ss)
  rw [conferir, hget]
  simp only [ok_bind, hprinted]

/-- A login that saves a user leaves nothing pending. -/
lemma login_of_salvo {transport : Transport σ} {usuario senha : Option String} {w : σ}
    (prefs : Prefs ρ) {user : Usuario} {text : String}
    (h : receber (transport (pedido usuario senha) w).1 = .salvo user text) :
    login transport usuario senha prefs w =
      (conferir user (some text), ⟨some text, []⟩, (transport (pedido usuario senha) w).2) := by
  have hdrain : (prefs.issue (.write text)).drain = ⟨some text, []⟩ := by
    rw [PendingRegister.drain_eq, PendingRegister.settled_issue_write]
  simp only [login, h, hdrain]

/-- A login that saves nobody does not touch the preferences. -/
lemma login_of_falha {transport : Transport σ} {usuario senha : Option String} {w : σ}
    (prefs : Prefs ρ) {response : ApiResponse Usuario}
    (h : receber (transport (pedido usuario senha) w).1 = .falha response) :
    login transport usuario senha prefs w =
      (response, prefs, (transport (pedido usuario senha) w).2) := by
  simp only [login, h]

/-- An accepted login returns the user, and stores a session that is read back as the user. -/
lemma login_of_aceito {transport : Transport σ} {usuario senha : Option String} {w : σ}
    (prefs : Prefs ρ) {user : Usuario}
    (h : Aceito (transport (pedido usuario senha) w).1 user) :
    (login transport usuario senha prefs w).1 = .success (some user) ∧
      laterGet (login transport usuario senha prefs w).2.1 = .ok (some user) := by
  obtain ⟨text, hreceber⟩ := receber_of_aceito h
  have hget := get_of_receber hreceber
  obtain ⟨_, map, -, -, hdescrito⟩ := h
  obtain ⟨-, text', htext⟩ := Usuario.descrito_iff.mp hdescrito
  rw [login_of_salvo prefs hreceber]
  exact ⟨conferir_eq (Usuario.readableRoles_of_saveText htext) hget, hget⟩

end LoginApi

/-- **The login is atomic.**  Whatever the answer and whatever is stored or pending, the login
returns a response.  If the server accepted a user, it is ok with that user, and a later `get`
completes with the same user; otherwise it is an error, and the preferences are what they were. -/
theorem login_atomico (transport : Transport σ) (login password : Option String) (prefs : Prefs ρ)
    (w : σ) :
    let answer := (transport (LoginApi.pedido login password) w).1
    let saida := LoginApi.login transport login password prefs w
    (saida.1.ok = true ↔ ∃ user, LoginApi.Aceito answer user) ∧
      (∀ user, LoginApi.Aceito answer user →
        saida.1 = .success (some user) ∧ laterGet saida.2.1 = .ok (some user)) ∧
      ((¬ ∃ user, LoginApi.Aceito answer user) → saida.1.ok = false ∧ saida.2.1 = prefs) := by
  intro answer saida
  have hfalha : (¬ ∃ user, LoginApi.Aceito answer user) →
      saida.1.ok = false ∧ saida.2.1 = prefs := by
    intro hno
    cases hreceber : LoginApi.receber answer with
    | salvo user text => exact absurd ⟨user, LoginApi.aceito_of_receber hreceber⟩ hno
    | falha response =>
      have hsaida := LoginApi.login_of_falha prefs hreceber
      rw [show saida = _ from hsaida]
      exact ⟨LoginApi.ok_of_receber hreceber, rfl⟩
  refine ⟨⟨fun h => ?_, ?_⟩, fun user => LoginApi.login_of_aceito prefs, hfalha⟩
  · by_contra hno
    rw [(hfalha hno).1] at h
    cases h
  · rintro ⟨user, haceito⟩
    rw [(LoginApi.login_of_aceito prefs haceito).1]
    rfl

/-- A server that knows the user, while a logout is still on its way to the preferences. -/
theorem login_atomico_ana :
    let map : DynMap :=
      [("id", .int 7), ("login", .str "ana"), ("nome", .str "Ana"), ("email", .str "ana@mail.com"),
        ("urlFoto", .str "ana.jpg"), ("token", .str "t7"),
        ("roles", .list [.str "ROLE_USER", .str "ROLE_ADMIN"])]
    let user : Usuario :=
      { id := some 7, login := some "ana", nome := some "Ana", email := some "ana@mail.com",
        urlFoto := some "ana.jpg", token := some "t7",
        roles := some [.ok (some "ROLE_USER"), .ok (some "ROLE_ADMIN")] }
    let server : Transport Unit := responde (.ok ⟨200, jsonEncode (.map map)⟩)
    let prefs : Prefs Unit := Usuario.clear ⟨none, []⟩
    (LoginApi.login server (some "ana") (some "123") prefs ()).1 = .success (some user) ∧
      laterGet (LoginApi.login server (some "ana") (some "123") prefs ()).2.1 =
        .ok (some user) := by
  intro map user server prefs
  have hdescrito : user.Descrito map :=
    ⟨rfl, rfl, rfl, rfl, rfl, rfl, [some "ROLE_USER", some "ROLE_ADMIN"], rfl, rfl⟩
  have hid : user.IdInt64 := by
    intro i hi
    obtain rfl := Option.some.inj hi
    decide
  have hreread : rereadEntries map = map :=
    Usuario.rereadEntries_jsonMap hid (.list [.str "ROLE_USER", .str "ROLE_ADMIN"])
  have hbody : jsonDecode (jsonEncode (.map map)) = some (.map map) := by
    rw [jsonDecode_jsonEncode, Dyn.reread_map, hreread]
  have haceito : LoginApi.Aceito (.ok ⟨200, jsonEncode (.map map)⟩) user :=
    ⟨jsonEncode (.map map), map, rfl, hbody, hdescrito⟩
  obtain ⟨-, hsalva, -⟩ := login_atomico server (some "ana") (some "123") prefs ()
  exact hsalva user haceito

end Carros
