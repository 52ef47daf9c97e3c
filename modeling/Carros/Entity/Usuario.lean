import Carros.Base.JsonRoundTrip

/-!
# Users

The class `Usuario` of `pages/login/usuario.dart`: its decoder, its encoder and the texts `save`,
`clear` and `get` exchange with the preferences.

The field `roles` of a decoded user is the view `json['roles'].cast<String>()`, which casts an
element only when it is read; `CastList` keeps, for every element, what reading it gives.  The
decoder calls `cast` on whatever stands under the key, so it fails on a user whose roles are
`null`, while the encoder writes `null` roles without complaint.
-/

namespace Carros

open Dart

/-- A list of strings whose elements are cast when they are read. -/
abbrev CastList := List (Except DartError (Option String))

/-- The class `Usuario`. -/
structure Usuario where
  id : Option Int := none
  login : Option String := none
  nome : Option String := none
  email : Option String := none
  urlFoto : Option String := none
  token : Option String := none
  roles : Option CastList := none
  deriving DecidableEq

/-- A Firebase account, as far as the app reads it. -/
structure FirebaseUser where
  uid : Option String
  displayName : Option String
  email : Option String
  photoUrl : Option String
  deriving DecidableEq, Repr

namespace Usuario

/-- `json['roles'].cast<String>()`: only a list has that method. -/
def castRoles : Dyn → Except DartError CastList
  | .list xs => .ok (xs.map Dyn.asString)
  | _ => .error .noSuchMethod

/-- `Usuario.fromJson`. -/
def fromJson (json : DynMap) : Except DartError Usuario := do
  let id ← (json.get "id").asInt
  let login ← (json.get "login").asString
  let nome ← (json.get "nome").asString
  let email ← (json.get "email").asString
  let urlFoto ← (json.get "urlFoto").asString
  let token ← (json.get "token").asString
  let roles ← castRoles (json.get "roles")
  return { id, login, nome, email, urlFoto, token, roles := some roles }

/-- Reading every element of a list of strings. -/
def readRoles (roles : CastList) : Except DartError (List Dyn) :=
  roles.mapM fun role => role.map Dyn.ofString

/-- The roles as the encoder writes them. -/
def encodeRoles : Option CastList → Except DartError Dyn
  | none => .ok .null
  | some roles => (readRoles roles).map Dyn.list

/-- The map of a user whose roles are encoded as `roles`. -/
def jsonMap (u : Usuario) (roles : Dyn) : DynMap :=
  [("id", .ofInt u.id), ("login", .ofString u.login), ("nome", .ofString u.nome),
    ("email", .ofString u.email), ("urlFoto", .ofString u.urlFoto), ("token", .ofString u.token),
    ("roles", roles)]

/-- `Usuario.toJson` together with the reading of the roles that encoding the map takes. -/
def toJson (u : Usuario) : Except DartError DynMap := do
  let roles ← encodeRoles u.roles
  return u.jsonMap roles

/-- The text `Usuario.save` writes under `user.prefs`. -/
def saveText (u : Usuario) : Except DartError String :=
  u.toJson.map fun m => jsonEncode (.map m)

/-- The text `Usuario.clear` writes under `user.prefs`. -/
def clearText : String := ""

/-- `Usuario.get`, given what is stored under `user.prefs`. -/
def get (stored : Option String) : Except DartError (Option Usuario) :=
  let json := stored.getD ""
  if json.isEmpty then .ok none
  else
    match jsonDecode json with
    | none => .error .formatException
    | some d => do
      let map ← d.asMap
      let user ← fromJson map
      return some user

/-- `toString`, which reads the roles; its text goes to the log only. -/
def printed (u : Usuario) : Except DartError Unit :=
  match u.roles with
  | none => .ok ()
  | some roles => (readRoles roles).map fun _ => ()

/-- The user `FirebaseService.login` and `FirebaseService.loginGoogle` build. -/
def ofFirebase (fuser : FirebaseUser) : Usuario :=
  { nome := fuser.displayName, login := fuser.email, email := fuser.email,
    urlFoto := fuser.photoUrl }

/-- The user `FirebaseService.cadastrar` builds. -/
def ofCadastro (fuser : FirebaseUser) : Usuario :=
  { nome := fuser.displayName, login := fuser.email, email := fuser.email,
    urlFoto := fuser.photoUrl, id := some (-1), roles := some [.ok (some "NORMA_USER")],
    token := fuser.uid }

/-! ## Reading back what was written -/

/-- The id of a user is one an `int` holds. -/
def IdInt64 (u : Usuario) : Prop := ∀ i, u.id = some i → IsInt64 i

/-- Every element of the roles can be read as a nullable string. -/
def ReadableRoles (u : Usuario) : Prop :=
  ∀ roles, u.roles = some roles → ∀ r ∈ roles, ∃ s, r = .ok s

/-- A user that is read back as it was written: its id is an `int`, its roles are strings. -/
structure Readable (u : Usuario) : Prop where
  id : u.IdInt64
  roles : u.ReadableRoles

/-- A list of strings that can be read as a whole is a list of nullable strings. -/
lemma exists_of_readRoles {roles : CastList} {xs : List Dyn} (h : readRoles roles = .ok xs) :
    ∃ ss : List (Option String), roles = ss.map .ok ∧ xs = ss.map Dyn.ofString := by
  induction roles generalizing xs with
  | nil =>
    obtain rfl := Except.ok.inj h
    exact ⟨[], rfl, rfl⟩
  | cons r roles ih =>
    rw [readRoles, List.mapM_cons] at h
    obtain ⟨x, hx, h⟩ := bind_eq_ok.mp h
    obtain ⟨ys, hys, h⟩ := bind_eq_ok.mp h
    obtain rfl := Except.ok.inj h
    obtain ⟨ss, rfl, rfl⟩ := ih hys
    cases r with
    | error e => simp [Except.map] at hx
    | ok s =>
      obtain rfl := Except.ok.inj hx
      exact ⟨s :: ss, rfl, rfl⟩

/-- A list of nullable strings can be read as a whole. -/
lemma readRoles_map_ok (ss : List (Option String)) :
    readRoles (ss.map .ok) = .ok (ss.map Dyn.ofString) := by
  induction ss with
  | nil => rfl
  | cons s ss ih =>
    rw [readRoles] at ih
    rw [List.map_cons, readRoles, List.mapM_cons, ih]
    rfl

/-- Casting the elements of an encoded list gives back the list. -/
lemma castRoles_map_ofString (ss : List (Option String)) :
    castRoles (.list (ss.map Dyn.ofString)) = .ok (ss.map .ok) := by
  rw [castRoles, List.map_map]
  congr 1
  exact List.map_congr_left fun s _ => Dyn.asString_ofString s

/-- Readable roles are a list of nullable strings. -/
lemma exists_of_forall_readable {roles : CastList} (h : ∀ r ∈ roles, ∃ s, r = .ok s) :
    ∃ ss : List (Option String), roles = ss.map .ok := by
  induction roles with
  | nil => exact ⟨[], rfl⟩
  | cons r roles ih =>
    obtain ⟨s, rfl⟩ := h r List.mem_cons_self
    obtain ⟨ss, rfl⟩ := ih fun r hr => h r (List.mem_cons_of_mem _ hr)
    exact ⟨s :: ss, rfl⟩

/-- A user with readable roles is written. -/
lemma ReadableRoles.exists_saveText {u : Usuario} (h : u.ReadableRoles) :
    ∃ text, u.saveText = .ok text := by
  cases hroles : u.roles with
  | none => exact ⟨_, by simp [saveText, toJson, encodeRoles, hroles, Except.map]; rfl⟩
  | some roles =>
    obtain ⟨ss, rfl⟩ := exists_of_forall_readable (h roles hroles)
    exact ⟨_, by simp [saveText, toJson, encodeRoles, hroles, readRoles_map_ok, Except.map]; rfl⟩

/-- The text of a user with roles is the text of its map. -/
lemma saveText_eq_ok {u : Usuario} {text : String} {roles : CastList}
    (hroles : u.roles = some roles) (h : u.saveText = .ok text) :
    ∃ ss : List (Option String), roles = ss.map .ok ∧
      text = jsonEncode (.map (u.jsonMap (.list (ss.map Dyn.ofString)))) := by
  cases hxs : readRoles roles with
  | error e => simp [saveText, toJson, encodeRoles, hroles, hxs, Except.map] at h
  | ok xs =>
    obtain ⟨ss, rfl, rfl⟩ := exists_of_readRoles hxs
    refine ⟨ss, rfl, ?_⟩
    simpa [saveText, toJson, encodeRoles, hroles, hxs, Except.map] using h.symm

/-- A user that was written has readable roles. -/
lemma readableRoles_of_saveText {u : Usuario} {text : String} (h : u.saveText = .ok text) :
    u.ReadableRoles := by
  intro roles hroles r hr
  obtain ⟨ss, rfl, -⟩ := saveText_eq_ok hroles h
  obtain ⟨s, -, rfl⟩ := List.mem_map.mp hr
  exact ⟨s, rfl⟩

/-- The user of a Firebase login is readable. -/
lemma readable_ofFirebase (fuser : FirebaseUser) : (ofFirebase fuser).Readable := by
  refine ⟨fun i hi => ?_, fun roles hroles => ?_⟩
  · exact absurd hi (by simp [ofFirebase])
  · exact absurd hroles (by simp [ofFirebase])

/-- The user of a registration is readable. -/
lemma readable_ofCadastro (fuser : FirebaseUser) : (ofCadastro fuser).Readable := by
  refine ⟨fun i hi => ?_, fun roles hroles r hr => ?_⟩
  · obtain rfl : -1 = i := by simpa [ofCadastro] using hi
    decide
  · obtain rfl : [.ok (some "NORMA_USER")] = roles := by simpa [ofCadastro] using hroles
    exact ⟨some "NORMA_USER", by simpa using hr⟩

/-- The id of a user that was decoded from a text is an `int`. -/
lemma idInt64_of_fromJson {text : String} {m : DynMap} {u : Usuario}
    (htext : jsonDecode text = some (.map m)) (h : fromJson m = .ok u) : u.IdInt64 := by
  obtain ⟨id, hid, h⟩ := bind_eq_ok.mp h
  obtain ⟨login, -, h⟩ := bind_eq_ok.mp h
  obtain ⟨nome, -, h⟩ := bind_eq_ok.mp h
  obtain ⟨email, -, h⟩ := bind_eq_ok.mp h
  obtain ⟨urlFoto, -, h⟩ := bind_eq_ok.mp h
  obtain ⟨token, -, h⟩ := bind_eq_ok.mp h
  obtain ⟨roles, -, h⟩ := bind_eq_ok.mp h
  obtain rfl := Except.ok.inj h
  exact isInt64_of_jsonDecode htext (Dyn.asInt_eq_ok.mp hid)

/-- The map of a user is read back as the user, once its roles are cast. -/
lemma fromJson_jsonMap (u : Usuario) (roles : Dyn) :
    fromJson (u.jsonMap roles) = (castRoles roles).map fun rs => { u with roles := some rs } := by
  have hid : (u.jsonMap roles).get "id" = .ofInt u.id := rfl
  have hlogin : (u.jsonMap roles).get "login" = .ofString u.login := rfl
  have hnome : (u.jsonMap roles).get "nome" = .ofString u.nome := rfl
  have hemail : (u.jsonMap roles).get "email" = .ofString u.email := rfl
  have hurlFoto : (u.jsonMap roles).get "urlFoto" = .ofString u.urlFoto := rfl
  have htoken : (u.jsonMap roles).get "token" = .ofString u.token := rfl
  have hroles : (u.jsonMap roles).get "roles" = roles := rfl
  simp only [fromJson, hid, hlogin, hnome, hemail, hurlFoto, htoken, hroles, Dyn.asInt_ofInt,
    Dyn.asString_ofString, ok_bind]
  cases castRoles roles <;> rfl

/-- The map of a user whose id is an `int` is read back field by field. -/
lemma rereadEntries_jsonMap {u : Usuario} (h : u.IdInt64) (roles : Dyn) :
    rereadEntries (u.jsonMap roles) = u.jsonMap roles.reread := by
  have hid : (Dyn.ofInt u.id).reread = .ofInt u.id := Dyn.reread_ofInt.mpr ⟨rfl, h⟩
  simp [jsonMap, rereadEntries, hid]

/-- `get` on the text of a map. -/
lemma get_jsonEncode (m : DynMap) :
    get (some (jsonEncode (.map m))) = (fromJson (rereadEntries m)).map some := by
  have hne : (jsonEncode (.map m)).isEmpty = false := by
    simpa using jsonEncode_ne_empty (.map m)
  simp only [get, Option.getD_some, hne, jsonDecode_jsonEncode, Dyn.reread_map, Dyn.asMap_map,
    ok_bind]
  cases fromJson (rereadEntries m) <;> rfl

/-- A list of nullable strings is read back as it was. -/
lemma reread_list_map_ofString (ss : List (Option String)) :
    (Dyn.list (ss.map Dyn.ofString)).reread = .list (ss.map Dyn.ofString) := by
  rw [Dyn.reread_list, rereadList_eq_map, List.map_map]
  exact congrArg Dyn.list (List.map_congr_left fun s _ => Dyn.reread_ofString s)

/-- What a written user is read back as: the user itself if it has roles, otherwise the error of
calling `cast` on `null`. -/
theorem get_saveText {u : Usuario} {text : String} (hid : u.IdInt64)
    (h : u.saveText = .ok text) :
    get (some text) =
      if u.roles = none then .error .noSuchMethod else .ok (some u) := by
  cases hroles : u.roles with
  | none =>
    obtain rfl : jsonEncode (.map (u.jsonMap .null)) = text := by
      simpa [saveText, toJson, encodeRoles, hroles, Except.map] using h
    rw [get_jsonEncode, rereadEntries_jsonMap hid, fromJson_jsonMap]
    rfl
  | some roles =>
    obtain ⟨ss, rfl, rfl⟩ := saveText_eq_ok hroles h
    have hu : { u with roles := some (ss.map .ok) } = u := by rw [← hroles]
    rw [get_jsonEncode, rereadEntries_jsonMap hid, reread_list_map_ofString, fromJson_jsonMap,
      castRoles_map_ofString]
    simp [Except.map, hu]

/-- After `clear` there is no user. -/
@[simp] lemma get_clearText : get (some clearText) = .ok none := rfl

end Usuario

end Carros
