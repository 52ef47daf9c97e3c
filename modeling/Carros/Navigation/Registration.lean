import Carros.Navigation.App

/-!
# Registering an account

`FirebaseService.cadastrar` of `pages/login/firebase_service.dart`, with the upload of the photo.
The remote side is given by the outcome of each call.  `updateProfile` is not waited for, so its
outcome reaches nobody; it sends the values of the moment, and a later change of the update object
is not sent.  The user of the session is built from the account as `createUser` returned it.

`Consistente` is what a registration is for; `consistente_iff` settles when one is.  `aposCadastro`
is what `_onClickCadastrar` of `pages/login/cadastro_page.dart` does with the response, and
`respondida_cadastrar` connects it with the navigation.
-/

namespace Carros

open Dart

variable {ρ : Type*}

namespace FirebaseService

/-- A caught error: its `message` if it has such a member, and the text of the stack trace. -/
structure Excecao where
  message : Option (Option String)
  stackTrace : String
  deriving DecidableEq, Repr

/-- The error of a cast that failed, which has no `message`. -/
def Excecao.cast : Excecao := ⟨none, ""⟩

/-- The outcomes of the remote calls.  A file is given by its base name. -/
structure Firebase where
  createUser (email password : Option String) : Except Excecao FirebaseUser
  updateProfile : Except Excecao Unit
  putFile (fileName : String) : Except Excecao Unit
  getDownloadURL (fileName : String) : Except Excecao String

/-- `UserUpdateInfo`. -/
structure UserUpdateInfo where
  displayName : Option String
  photoUrl : Option String

/-- The account that was created, as the server has it, and the preferences. -/
structure Mundo (ρ : Type*) where
  conta : Option FirebaseUser
  prefs : Prefs ρ

/-- The photo of every account that is updated. -/
def fotoPadrao : String := "http://s3-east-1.amazonaws.com/livetouch-temp/livrows/foto.png"

/-- `uploadFirebaseStorage`. -/
def uploadFirebaseStorage (fb : Firebase) (fileName : String) : Except Excecao String := do
  fb.putFile fileName
  fb.getDownloadURL fileName

/-- The account after an update with the given values was sent and came through or not. -/
def Firebase.perfil (fb : Firebase) (fuser : FirebaseUser) (info : UserUpdateInfo) : FirebaseUser :=
  match fb.updateProfile with
  | .ok _ => { fuser with displayName := info.displayName, photoUrl := info.photoUrl }
  | .error _ => fuser

/-- The `catch`: it reads `e.message`, which throws when there is none. -/
def falhar (e : Excecao) : Except DartError (ApiResponse Bool) :=
  match e.message with
  | none => .error .noSuchMethod
  | some message =>
    .ok ⟨false, some ("Nao foi possivel fazer o cadastro: " ++ message.getD "null" ++ " >> " ++
      e.stackTrace), some false⟩

/-- `cadastrar`: the response, and the world once everything it started has come to an end. -/
def cadastrar (fb : Firebase) (nome email password : Option String) (file : Option String)
    (prefs : Prefs ρ) : Except DartError (ApiResponse Bool) × Mundo ρ :=
  match fb.createUser email password with
  | .error e => (falhar e, ⟨none, prefs⟩)
  | .ok fuser =>
    let info : UserUpdateInfo := ⟨nome, some fotoPadrao⟩
    let conta := some (fb.perfil fuser info)
    -- The url of the file is written into the update object, which has been sent.
    let enviado : Except Excecao UserUpdateInfo :=
      match file with
      | none => .ok info
      | some fileName =>
        (uploadFirebaseStorage fb fileName).map fun url => { info with photoUrl := some url }
    match enviado with
    | .error e => (falhar e, ⟨conta, prefs⟩)
    | .ok _ =>
      match (Usuario.ofCadastro fuser).save prefs with
      | .error _ => (falhar .cast, ⟨conta, prefs⟩)
      | .ok prefs' => (.ok ⟨true, some "Usuario criado com sucesso", some true⟩, ⟨conta, prefs'⟩)

/-! ## What a registration is for -/

/-- The profile on the server has the nome, and the url of the file if one was given; the user in
the session has the same two. -/
def Registrado (fb : Firebase) (nome : Option String) (file : Option String) (w : Mundo ρ) : Prop :=
  ∃ perfil u, w.conta = some perfil ∧ laterGet w.prefs = .ok (some u) ∧
    perfil.displayName = nome ∧ u.nome = perfil.displayName ∧ u.urlFoto = perfil.photoUrl ∧
    ∀ fileName, file = some fileName →
      ∃ url, uploadFirebaseStorage fb fileName = .ok url ∧ perfil.photoUrl = some url

/-- The registration of an account is all or nothing: it does not throw, a success is registered,
and an error has created no account and left the session alone. -/
def Consistente (fb : Firebase) (nome : Option String) (file : Option String) (prefs : Prefs ρ)
    (saida : Except DartError (ApiResponse Bool) × Mundo ρ) : Prop :=
  ∃ response, saida.1 = .ok response ∧
    (response.ok = true → Registrado fb nome file saida.2) ∧
    (response.ok = false → saida.2 = ⟨none, prefs⟩)

/-- The account that was created came with the profile that was asked for: with the nome, with the
photo of every account if the update comes through, and with the url of the file if there is one. -/
structure JaRegistrada (fb : Firebase) (nome : Option String) (file : Option String)
    (fuser : FirebaseUser) : Prop where
  nome : fuser.displayName = nome
  foto : fb.updateProfile = .ok () → fuser.photoUrl = some fotoPadrao
  file : ∀ fileName, file = some fileName →
    ∃ url, uploadFirebaseStorage fb fileName = .ok url ∧ fuser.photoUrl = some url

/-- The `catch` throws, or it returns an error. -/
lemma falhar_cases (e : Excecao) :
    (e.message = none ∧ falhar e = .error .noSuchMethod) ∨
      ∃ message response, e.message = some message ∧ falhar e = .ok response ∧
        response.ok = false := by
  cases hmessage : e.message with
  | none => exact Or.inl ⟨rfl, by rw [falhar, hmessage]⟩
  | some message => exact Or.inr ⟨message, _, rfl, by rw [falhar, hmessage], rfl⟩

/-- What follows an error is consistent exactly if it has a `message` and nothing has changed. -/
lemma consistente_falhar {fb : Firebase} {nome file : Option String} {prefs : Prefs ρ}
    {w : Mundo ρ} {e : Excecao} :
    Consistente fb nome file prefs (falhar e, w) ↔ e.message ≠ none ∧ w = ⟨none, prefs⟩ := by
  rcases falhar_cases e with ⟨hnone, hfalhar⟩ | ⟨message, response, hmessage, hfalhar, hok⟩
  · refine ⟨?_, fun h => absurd hnone h.1⟩
    rintro ⟨response, hresponse, -⟩
    rw [hfalhar] at hresponse
    cases hresponse
  · rw [hmessage]
    constructor
    · rintro ⟨response', hresponse, -, herro⟩
      obtain rfl := Except.ok.inj (hfalhar.symm.trans hresponse)
      exact ⟨by simp, herro hok⟩
    · rintro ⟨-, rfl⟩
      exact ⟨response, hfalhar, by simp [hok], fun _ => rfl⟩

/-- The user of a registration is saved, and a later `get` returns it. -/
lemma save_ofCadastro (fuser : FirebaseUser) (prefs : Prefs ρ) :
    ∃ prefs', (Usuario.ofCadastro fuser).save prefs = .ok prefs' ∧
      laterGet prefs' = .ok (some (Usuario.ofCadastro fuser)) := by
  have hread := Usuario.readable_ofCadastro fuser
  obtain ⟨text, htext⟩ := hread.roles.exists_saveText
  refine ⟨prefs.issue (.write text), by rw [Usuario.save, htext]; rfl, ?_⟩
  rw [laterGet, PendingRegister.drain_eq, PendingRegister.settled_issue_write,
    Usuario.get_saveText hread.id htext]
  rfl

/-- The profile of the account agrees with the session exactly if it came as it was asked for. -/
lemma registrado_iff {fb : Firebase} {nome file : Option String} {fuser : FirebaseUser}
    {prefs : Prefs ρ} (hprefs : laterGet prefs = .ok (some (Usuario.ofCadastro fuser))) :
    Registrado fb nome file ⟨some (fb.perfil fuser ⟨nome, some fotoPadrao⟩), prefs⟩ ↔
      JaRegistrada fb nome file fuser := by
  cases hupdate : fb.updateProfile with
  | ok =>
    have hperfil : fb.perfil fuser ⟨nome, some fotoPadrao⟩ =
        { fuser with displayName := nome, photoUrl := some fotoPadrao } := by
      rw [Firebase.perfil, hupdate]
    rw [hperfil]
    constructor
    · rintro ⟨perfil, u, hconta, hget, -, hnome, hfoto, hfile⟩
      obtain rfl := Option.some.inj hconta
      obtain rfl := Option.some.inj (Except.ok.inj (hprefs.symm.trans hget))
      have hfoto : fuser.photoUrl = some fotoPadrao := hfoto
      exact ⟨hnome, fun _ => hfoto, by rw [hfoto]; exact hfile⟩
    · rintro ⟨hnome, hfoto, hfile⟩
      have hfoto := hfoto hupdate
      refine ⟨_, _, rfl, hprefs, rfl, hnome, hfoto, ?_⟩
      rwa [hfoto] at hfile
  | error e =>
    have hperfil : fb.perfil fuser ⟨nome, some fotoPadrao⟩ = fuser := by
      rw [Firebase.perfil, hupdate]
    rw [hperfil]
    constructor
    · rintro ⟨perfil, u, hconta, -, hnome, -, -, hfile⟩
      obtain rfl := Option.some.inj hconta
      exact ⟨hnome, fun h => (by rw [hupdate] at h; cases h), hfile⟩
    · rintro ⟨hnome, -, hfile⟩
      exact ⟨_, _, rfl, hprefs, hnome, rfl, rfl, hfile⟩

/-- Once the account is there and the file, if any, has been uploaded, the registration is
consistent exactly if the account came as it was asked for. -/
lemma consistente_criada {fb : Firebase} {nome email password file : Option String}
    {fuser : FirebaseUser} (hcreate : fb.createUser email password = .ok fuser)
    (hfile : ∀ fileName, file = some fileName → ∃ url, uploadFirebaseStorage fb fileName = .ok url)
    (prefs : Prefs ρ) :
    Consistente fb nome file prefs (cadastrar fb nome email password file prefs) ↔
      JaRegistrada fb nome file fuser := by
  obtain ⟨prefs', hsave, hget⟩ := save_ofCadastro fuser prefs
  have hsaida : cadastrar fb nome email password file prefs =
      (.ok ⟨true, some "Usuario criado com sucesso", some true⟩,
        ⟨some (fb.perfil fuser ⟨nome, some fotoPadrao⟩), prefs'⟩) := by
    cases file with
    | none => simp only [cadastrar, hcreate, hsave]
    | some fileName =>
      obtain ⟨url, hurl⟩ := hfile fileName rfl
      simp only [cadastrar, hcreate, hurl, Except.map, hsave]
  rw [hsaida, ← registrado_iff hget]
  constructor
  · rintro ⟨response, hresponse, hok, -⟩
    obtain rfl := Except.ok.inj hresponse
    exact hok rfl
  · intro h
    exact ⟨_, rfl, fun _ => h, fun h => (by cases h)⟩

/-- A failed upload leaves the account behind. -/
lemma not_consistente_upload {fb : Firebase} {nome email password : Option String}
    {fileName : String} {fuser : FirebaseUser} {e : Excecao}
    (hcreate : fb.createUser email password = .ok fuser)
    (hupload : uploadFirebaseStorage fb fileName = .error e) (prefs : Prefs ρ) :
    ¬ Consistente fb nome (some fileName) prefs
      (cadastrar fb nome email password (some fileName) prefs) := by
  have hsaida : cadastrar fb nome email password (some fileName) prefs =
      (falhar e, ⟨some (fb.perfil fuser ⟨nome, some fotoPadrao⟩), prefs⟩) := by
    simp only [cadastrar, hcreate, hupload, Except.map]
  rw [hsaida, consistente_falhar]
  rintro ⟨-, h⟩
  cases congrArg Mundo.conta h

/-- A new account, which has neither a nome nor a photo, is as it was asked for only if nothing was
asked for and the update does not come through. -/
lemma jaRegistrada_nova {fb : Firebase} {nome file : Option String} {fuser : FirebaseUser}
    (hnome : fuser.displayName = none) (hfoto : fuser.photoUrl = none) :
    JaRegistrada fb nome file fuser ↔ nome = none ∧ file = none ∧ fb.updateProfile ≠ .ok () := by
  constructor
  · rintro ⟨hnome', hfoto', hfile⟩
    refine ⟨hnome'.symm.trans hnome, ?_, fun h => ?_⟩
    · refine Option.eq_none_iff_forall_ne_some.mpr fun fileName h => ?_
      obtain ⟨url, -, hurl⟩ := hfile fileName h
      rw [hfoto] at hurl
      cases hurl
    · have hpadrao := hfoto' h
      rw [hfoto] at hpadrao
      cases hpadrao
  · rintro ⟨rfl, rfl, hupdate⟩
    exact ⟨hnome, fun h => absurd h hupdate, fun fileName h => (by cases h)⟩

end FirebaseService

open FirebaseService in
/-- **The registration.**  Whatever the outcomes of the remote calls, a registration is all or
nothing exactly if either the account cannot be created and the error has a `message`, or the
account that is created already came with the profile that was asked for. -/
theorem consistente_iff (fb : Firebase) (nome email password file : Option String)
    (prefs : Prefs ρ) :
    Consistente fb nome file prefs (cadastrar fb nome email password file prefs) ↔
      (∃ e, fb.createUser email password = .error e ∧ e.message ≠ none) ∨
        ∃ fuser, fb.createUser email password = .ok fuser ∧ JaRegistrada fb nome file fuser := by
  cases hcreate : fb.createUser email password with
  | error e =>
    have hsaida : cadastrar fb nome email password file prefs = (falhar e, ⟨none, prefs⟩) := by
      simp only [cadastrar, hcreate]
    rw [hsaida, consistente_falhar]
    simp
  | ok fuser =>
    have hright : ((∃ e, (.ok fuser : Except Excecao FirebaseUser) = .error e ∧ e.message ≠ none) ∨
        ∃ fuser', (.ok fuser : Except Excecao FirebaseUser) = .ok fuser' ∧
          JaRegistrada fb nome file fuser') ↔ JaRegistrada fb nome file fuser := by simp
    rw [hright]
    by_cases hfile : ∀ fileName, file = some fileName →
        ∃ url, uploadFirebaseStorage fb fileName = .ok url
    · exact consistente_criada hcreate hfile prefs
    · push Not at hfile
      obtain ⟨fileName, rfl, hno⟩ := hfile
      refine iff_of_false ?_ fun h => ?_
      · cases hupload : uploadFirebaseStorage fb fileName with
        | error e => exact not_consistente_upload hcreate hupload prefs
        | ok url => exact absurd hupload (hno url)
      · obtain ⟨url, hurl, -⟩ := h.file fileName rfl
        exact hno url hurl

open FirebaseService in
/-- Three registrations of Ana.  All calls succeed: the session has no nome.  The upload fails: an
error is returned although the account exists.  The error of the upload has no `message`: the call
throws. -/
theorem consistente_fails :
    let ana : FirebaseUser := ⟨some "uid", none, some "ana@mail.com", none⟩
    let prefs : Prefs Unit := ⟨none, []⟩
    let firebase := fun (putFile : Except Excecao Unit) =>
      (⟨fun _ _ => .ok ana, .ok (), fun _ => putFile, fun _ => .ok "url"⟩ : Firebase)
    let quota := firebase (.error ⟨some (some "quota"), ""⟩)
    let cadastro := fun (fb : Firebase) (file : Option String) =>
      cadastrar fb (some "Ana") ana.email (some "senha") file prefs
    (∃ u, laterGet (cadastro (firebase (.ok ())) none).2.prefs = .ok (some u) ∧ u.nome = none ∧
        ¬ Consistente (firebase (.ok ())) (some "Ana") none prefs
          (cadastro (firebase (.ok ())) none)) ∧
      (∃ response, (cadastro quota (some "ana.png")).1 = .ok response ∧ response.ok = false ∧
        (cadastro quota (some "ana.png")).2.conta ≠ none) ∧
      (cadastro (firebase (.error ⟨none, ""⟩)) (some "ana.png")).1 = .error .noSuchMethod := by
  intro ana prefs firebase quota cadastro
  have hnova : ¬ JaRegistrada (firebase (.ok ())) (some "Ana") none ana := fun h =>
    absurd ((jaRegistrada_nova rfl rfl).mp h).1 (by decide)
  refine ⟨⟨Usuario.ofCadastro ana, by decide +kernel, rfl, ?_⟩, ⟨_, rfl, rfl, ?_⟩, rfl⟩
  · exact fun h => hnova ((consistente_criada rfl (fun _ h => (by cases h)) prefs).mp h)
  · simp [cadastro, cadastrar, quota, firebase, uploadFirebaseStorage, Except.map, bind,
      Except.bind]

namespace CadastroPage

/-- `_onClickCadastrar` from the outcome of `cadastrar` on. -/
def aposCadastro (s : App) (rota : ℕ) : Except DartError (ApiResponse Bool) → Nav
  | .ok response => if response.ok then s.rotas.depois rota (.push .home) else s.alert rota
  | .error _ => .fica

end CadastroPage

open FirebaseService in
/-- The response to a registration in the navigation is the end of `cadastrar` without a file: the
page goes on with its outcome, and the session is as it left it. -/
theorem respondida_cadastrar (s : App) (sessao : Sessao) (rota : ℕ) (fb : Firebase)
    (nome email password : Option String) :
    let saida := cadastrar fb nome email password none sessao.prefs
    ∃ sessao', s.respondida sessao rota .cadastrar
        (.cadastro ((fb.createUser email password).mapError fun e => e.message.isSome)) =
          some (CadastroPage.aposCadastro s rota saida.1, sessao') ∧
      sessao'.prefs = saida.2.prefs := by
  intro saida
  cases hcreate : fb.createUser email password with
  | error e =>
    have hsaida : saida = (falhar e, ⟨none, sessao.prefs⟩) := by
      simp only [saida, cadastrar, hcreate]
    rw [hsaida]
    rcases falhar_cases e with ⟨hmessage, hfalhar⟩ | ⟨message, response, hmessage, hfalhar, hok⟩
    · exact ⟨sessao, by simp [App.respondida, Except.mapError, hmessage, hfalhar,
        CadastroPage.aposCadastro], rfl⟩
    · exact ⟨sessao, by simp [App.respondida, Except.mapError, hmessage, hfalhar, hok,
        CadastroPage.aposCadastro], rfl⟩
  | ok fuser =>
    obtain ⟨prefs', hsave, -⟩ := save_ofCadastro fuser sessao.prefs
    have hsaida : saida = (.ok ⟨true, some "Usuario criado com sucesso", some true⟩,
        ⟨some (fb.perfil fuser ⟨nome, some fotoPadrao⟩), prefs'⟩) := by
      simp only [saida, cadastrar, hcreate, hsave]
    rw [hsaida]
    exact ⟨{ sessao with fire := true, prefs := prefs' }, by
      simp [App.respondida, App.entrar, Except.mapError, hsave, CadastroPage.aposCadastro], rfl⟩

end Carros
