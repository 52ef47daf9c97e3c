import Carros.Http.CarrosApi
import Carros.Session.AtomicLogin

/-!
# What the services report

`CarrosApi.save`, `CarrosApi.delete` and `LoginApi.login` each turn the outcome of a request into an
`ApiResponse` by hand.  All of them catch what their handlers throw, so a response there always is;
what it says depends on the body.

A save decodes the body of a successful answer as a car before it reports the success, where a
delete looks at the status only.  A refused request is reported with what the body has under the key
`error`, and nothing stands in for that text when the key is missing; the text of the `catch` is
reached only if the body is no JSON object or the key holds no string.

`outcomes_iff` says for which answers the three services report the truth.
-/

namespace Carros

open Dart

variable {σ : Type} {ρ : Type*}

/-! ## What is expected -/

/-- An error carries a text that a dialog can show. -/
def ApiResponse.Mostra {α : Type} (response : ApiResponse α) : Prop :=
  response.ok = false → response.msg ≠ none

/-- The response is ok exactly if the server answered with one of the statuses of a success, and an
error carries a text. -/
def ApiResponse.Relata {α : Type} (sucesso : ℕ → Prop) (answer : Except DartError Response)
    (response : ApiResponse α) : Prop :=
  (response.ok = true ↔ ∃ r, answer = .ok r ∧ sucesso r.statusCode) ∧ response.Mostra

/-- The answer to the request of a save without a file. -/
def CarrosApi.respostaSalvar (transport : Transport σ) (stored : Option String) (c : Carro)
    (w : σ) : Except DartError Response :=
  (request transport stored (saveMethod c) (saveUrl c) (some c.toJson) w).1

/-- The answer to the request of a delete. -/
def CarrosApi.respostaDeletar (transport : Transport σ) (stored : Option String) (c : Carro)
    (w : σ) : Except DartError Response :=
  (request transport stored .delete (urlCarro c.id) none w).1

/-- The statuses of a save. -/
def CarrosApi.salvou (status : ℕ) : Prop := status = 200 ∨ status = 201

/-- The status of a delete and of a login. -/
def sucesso200 (status : ℕ) : Prop := status = 200

/-! ## What the body has to say -/

/-- The body is a JSON object without a text under the key `error`. -/
def Response.SemMensagem (response : Response) : Prop :=
  ∃ map : DynMap, jsonDecode response.body = some (.map map) ∧ map.get "error" = .null

/-- The body is a JSON object that `Carro.fromMap` accepts. -/
def Response.DescreveCarro (response : Response) : Prop :=
  ∃ map c, jsonDecode response.body = some (.map map) ∧ Carro.fromMap map = .ok c

/-- An answer without one of the statuses of a success has something to report. -/
def RecusaExplicada (sucesso : ℕ → Prop) (answer : Except DartError Response) : Prop :=
  ∀ r, answer = .ok r → ¬ sucesso r.statusCode → ¬ r.SemMensagem

/-- An answer with the status of a save describes a car. -/
def SalvoDescrito (answer : Except DartError Response) : Prop :=
  ∀ r, answer = .ok r → CarrosApi.salvou r.statusCode → r.DescreveCarro

/-! ## Reading the body -/

/-- The object in a body, as the handlers read it. -/
def objeto (body : String) : Except DartError DynMap :=
  match jsonDecode body with
  | none => .error .formatException
  | some d => d.asMap

/-- A body is read as an object if it is one. -/
lemma objeto_eq_ok {body : String} {map : DynMap} :
    objeto body = .ok map ↔ jsonDecode body = some (.map map) := by
  unfold objeto
  cases jsonDecode body with
  | none => simp
  | some d => simp [Dyn.asMap_eq_ok]

/-- What the handlers do with a body is done with its object. -/
lemma decodificar_eq {α : Type} (body : String) (f : DynMap → Except DartError α) :
    (match jsonDecode body with
      | none => .error .formatException
      | some d => d.asMap >>= f) = objeto body >>= f := by
  rw [objeto]
  cases jsonDecode body <;> rfl

/-- The text under the key `error` is read as `null` exactly if the body is an object without
one. -/
lemma semMensagem_iff {response : Response} :
    (objeto response.body >>= fun map => (map.get "error").asString) = .ok none ↔
      response.SemMensagem := by
  simp only [bind_eq_ok, objeto_eq_ok, Dyn.asString_eq_ok, Dyn.ofString, Response.SemMensagem]

/-- A car can be read exactly if the body describes one. -/
lemma descreveCarro_iff {response : Response} :
    (∃ c, (objeto response.body >>= Carro.fromMap) = .ok c) ↔ response.DescreveCarro := by
  simp only [bind_eq_ok, objeto_eq_ok, Response.DescreveCarro]
  constructor
  · rintro ⟨c, map, hbody, hc⟩
    exact ⟨map, c, hbody, hc⟩
  · rintro ⟨map, c, hbody, hc⟩
    exact ⟨c, map, hbody, hc⟩

/-- The empty text is no object. -/
lemma not_semMensagem_of_isEmpty {response : Response} (h : response.body.isEmpty = true) :
    ¬ response.SemMensagem := by
  rintro ⟨map, hbody, -⟩
  rw [String.isEmpty_iff.mp h] at hbody
  cases hbody

/-! ## The services -/

namespace CarrosApi

/-- What is caught is reported with a text. -/
lemma orFailure_map_failure (msg : String) (texto : Except DartError (Option String)) :
    (orFailure msg (texto.map .failure)).ok = false ∧
      ((orFailure msg (texto.map .failure)).msg = none ↔ texto = .ok none) := by
  cases texto with
  | error e => exact ⟨rfl, by simp [orFailure, Except.map, ApiResponse.failure]⟩
  | ok texto => exact ⟨rfl, by simp [orFailure, Except.map, ApiResponse.failure]⟩

/-- A refused request is an error, and its text is missing exactly if the body is an object without
one. -/
lemma orFailure_refused (msg : String) (response : Response) :
    (orFailure msg (refused msg response)).ok = false ∧
      ((orFailure msg (refused msg response)).msg = none ↔ response.SemMensagem) := by
  cases hempty : response.body.isEmpty with
  | true =>
    have hsome : (orFailure msg (refused msg response)).msg = some msg := by
      rw [refused, hempty]
      rfl
    refine ⟨by rw [refused, hempty]; rfl, ⟨fun h => ?_, fun h => ?_⟩⟩
    · rw [hsome] at h
      cases h
    · exact absurd h (not_semMensagem_of_isEmpty hempty)
  | false =>
    have hrefused : refused msg response =
        (objeto response.body >>= fun map => (map.get "error").asString).map .failure := by
      rw [refused, hempty, map_bind]
      refine (decodificar_eq _ _).trans (congrArg _ (funext fun map => ?_))
      cases (map.get "error").asString <;> rfl
    rw [hrefused, ← semMensagem_iff]
    exact orFailure_map_failure msg _

/-- A save that was answered with a status of a success is ok exactly if the body describes a car,
and is an error with a text otherwise. -/
lemma orFailure_saveAnswer_of_salvou {response : Response} (h : salvou response.statusCode) :
    ((orFailure msgSalvar (saveAnswer response)).ok = true ↔ response.DescreveCarro) ∧
      (orFailure msgSalvar (saveAnswer response)).Mostra := by
  have hanswer : saveAnswer response =
      (objeto response.body >>= Carro.fromMap).map fun _ => .success (some true) := by
    rw [saveAnswer, if_pos (show _ ∨ _ from h), map_bind]
    refine (decodificar_eq _ _).trans (congrArg _ (funext fun map => ?_))
    cases Carro.fromMap map <;> rfl
  rw [hanswer, ← descreveCarro_iff]
  cases (objeto response.body >>= Carro.fromMap) with
  | error e => simp [orFailure, Except.map, ApiResponse.failure, ApiResponse.Mostra]
  | ok c => simp [orFailure, Except.map, ApiResponse.success, ApiResponse.Mostra]

/-- What a save reports about an answer is true exactly if a success describes a car and a refusal
has something to report. -/
lemma relata_salvar_iff (answer : Except DartError Response) :
    (orFailure msgSalvar (answer.bind saveAnswer)).Relata salvou answer ↔
      SalvoDescrito answer ∧ RecusaExplicada salvou answer := by
  cases answer with
  | error e =>
    have hrelata : (orFailure msgSalvar (.error e)).Relata salvou (.error e) := by
      simp [ApiResponse.Relata, ApiResponse.Mostra, orFailure, ApiResponse.failure]
    exact ⟨fun _ => ⟨fun r h => (by cases h), fun r h => (by cases h)⟩, fun _ => hrelata⟩
  | ok r =>
    have hbind : (Except.ok r).bind saveAnswer = saveAnswer r := rfl
    rw [hbind]
    by_cases hsalvou : salvou r.statusCode
    · obtain ⟨hok, hmostra⟩ := orFailure_saveAnswer_of_salvou hsalvou
      simp [ApiResponse.Relata, SalvoDescrito, RecusaExplicada, hok, hmostra, hsalvou]
    · obtain ⟨hok, hmsg⟩ := orFailure_refused msgSalvar r
      have hanswer : saveAnswer r = refused msgSalvar r := if_neg hsalvou
      rw [hanswer]
      simp [ApiResponse.Relata, ApiResponse.Mostra, SalvoDescrito, RecusaExplicada, hok, hmsg,
        hsalvou]

/-- What a delete reports about an answer is true exactly if a refusal has something to report. -/
lemma relata_deletar_iff (answer : Except DartError Response) :
    (orFailure msgDeletar (answer.bind deleteAnswer)).Relata sucesso200 answer ↔
      RecusaExplicada sucesso200 answer := by
  cases answer with
  | error e =>
    have hrelata : (orFailure msgDeletar (.error e)).Relata sucesso200 (.error e) := by
      simp [ApiResponse.Relata, ApiResponse.Mostra, orFailure, ApiResponse.failure]
    exact ⟨fun _ r h => (by cases h), fun _ => hrelata⟩
  | ok r =>
    have hbind : (Except.ok r).bind deleteAnswer = deleteAnswer r := rfl
    rw [hbind]
    by_cases hsucesso : sucesso200 r.statusCode
    · have hanswer : deleteAnswer r = .ok (.success (some true)) := if_pos hsucesso
      rw [hanswer]
      simp [ApiResponse.Relata, ApiResponse.Mostra, RecusaExplicada, orFailure,
        ApiResponse.success, hsucesso]
    · obtain ⟨hok, hmsg⟩ := orFailure_refused msgDeletar r
      have hanswer : deleteAnswer r = refused msgDeletar r := if_neg hsucesso
      rw [hanswer]
      simp [ApiResponse.Relata, ApiResponse.Mostra, RecusaExplicada, hok, hmsg, hsucesso]

end CarrosApi

namespace LoginApi

/-- The login of an answer reads its body as an object first. -/
lemma tentar_ok (r : Response) :
    tentar (.ok r) = objeto r.body >>= fun mapResponse =>
      if r.statusCode = 200 then do
        let user ← Usuario.fromJson mapResponse
        let text ← user.saveText
        return .salvo user text
      else do
        let msg ← (mapResponse.get "error").asString
        return .falha (.failure msg) := by
  rw [tentar, ok_bind]
  exact decodificar_eq _ _

/-- With another status the login reads the text of the error. -/
lemma tentar_of_ne {r : Response} (h : r.statusCode ≠ 200) :
    tentar (.ok r) = (objeto r.body >>= fun map => (map.get "error").asString).map
      fun msg => .falha (.failure msg) := by
  rw [tentar_ok, map_bind]
  simp only [h, if_false]
  refine congrArg _ (funext fun map => ?_)
  cases (map.get "error").asString <;> rfl

/-- With status 200 the handler saves a user or throws. -/
lemma exists_salvo_of_tentar {r : Response} (h : r.statusCode = 200) {stage : Receber}
    (hstage : tentar (.ok r) = .ok stage) : ∃ user text, stage = .salvo user text := by
  rw [tentar_ok] at hstage
  simp only [h, if_true] at hstage
  obtain ⟨map, -, hstage⟩ := bind_eq_ok.mp hstage
  obtain ⟨user, -, hstage⟩ := bind_eq_ok.mp hstage
  obtain ⟨text, -, hstage⟩ := bind_eq_ok.mp hstage
  exact ⟨user, text, (Except.ok.inj hstage).symm⟩

/-- The error of the `catch` has a text. -/
lemma mostra_msgLogin : msgLogin.Mostra := fun _ => by simp [msgLogin, ApiResponse.failure]

/-- The error of a login that saved nobody has a text exactly if a refusal has one in its body. -/
lemma mostra_of_receber {answer : Except DartError Response} {response : ApiResponse Usuario}
    (h : receber answer = .falha response) :
    response.Mostra ↔ RecusaExplicada sucesso200 answer := by
  cases answer with
  | error e =>
    obtain rfl := Receber.falha.inj h
    exact ⟨fun _ r hr => (by cases hr), fun _ => mostra_msgLogin⟩
  | ok r =>
    by_cases hstatus : r.statusCode = 200
    · have hresponse : response = msgLogin := by
        unfold receber at h
        split at h
        · rename_i stage hstage
          obtain ⟨user, text, rfl⟩ := exists_salvo_of_tentar hstatus hstage
          cases h
        · exact (Receber.falha.inj h).symm
      rw [hresponse]
      refine ⟨fun _ r' hr' hno => ?_, fun _ => mostra_msgLogin⟩
      obtain rfl := Except.ok.inj hr'
      exact absurd hstatus hno
    · have hrecusa : RecusaExplicada sucesso200 (.ok r) ↔ ¬ r.SemMensagem := by
        simp [RecusaExplicada, sucesso200, hstatus]
      rw [hrecusa, ← semMensagem_iff]
      rw [receber, tentar_of_ne hstatus] at h
      cases hlido : (objeto r.body >>= fun map => (map.get "error").asString) with
      | error e =>
        rw [hlido] at h
        obtain rfl := Receber.falha.inj h
        exact ⟨fun _ hno => (by cases hno), fun _ => mostra_msgLogin⟩
      | ok texto =>
        rw [hlido] at h
        obtain rfl := Receber.falha.inj h
        simp [ApiResponse.Mostra, ApiResponse.failure]

/-- A login that was refused is reported with a text exactly if the body has one. -/
lemma mostra_login_iff (transport : Transport σ) (usuario senha : Option String)
    (prefs : Prefs ρ) (w : σ) :
    (login transport usuario senha prefs w).1.Mostra ↔
      RecusaExplicada sucesso200 (transport (pedido usuario senha) w).1 := by
  cases hreceber : receber (transport (pedido usuario senha) w).1 with
  | falha response =>
    rw [login_of_falha prefs hreceber]
    exact mostra_of_receber hreceber
  | salvo user text =>
    have haceito := aceito_of_receber hreceber
    rw [(login_of_aceito prefs haceito).1]
    obtain ⟨body, map, hanswer, -, -⟩ := haceito
    refine ⟨fun _ r hr hno => ?_, fun _ hok => (by cases hok)⟩
    obtain rfl := Except.ok.inj (hanswer.symm.trans hr)
    exact absurd rfl hno

end LoginApi

/-- **What the services report.**  With a user in the session, and whatever the answer, none of the
three services throws.  A save reports the truth exactly if an answer of a success describes a car
and any other answer with an object for a body has something under `error`; a delete, and the error
of a login, exactly if the latter holds of their answer. -/
theorem outcomes_iff (transport : Transport σ) {stored : Option String}
    (hstored : ∃ u, Usuario.get stored = .ok (some u)) (c : Carro) (w : σ)
    (login password : Option String) (prefs : Prefs ρ) :
    ((CarrosApi.save transport stored c none w).1.Relata CarrosApi.salvou
        (CarrosApi.respostaSalvar transport stored c w) ↔
      SalvoDescrito (CarrosApi.respostaSalvar transport stored c w) ∧
        RecusaExplicada CarrosApi.salvou (CarrosApi.respostaSalvar transport stored c w)) ∧
    ((CarrosApi.delete transport stored c w).1.Relata sucesso200
        (CarrosApi.respostaDeletar transport stored c w) ↔
      RecusaExplicada sucesso200 (CarrosApi.respostaDeletar transport stored c w)) ∧
    ((LoginApi.login transport login password prefs w).1.Mostra ↔
      RecusaExplicada sucesso200 (transport (LoginApi.pedido login password) w).1) := by
  obtain ⟨hs, hheaders⟩ := (headers_ok_iff stored).mpr hstored
  refine ⟨?_, ?_, LoginApi.mostra_login_iff transport login password prefs w⟩
  · simp only [CarrosApi.save, CarrosApi.enviarFoto, hheaders]
    exact CarrosApi.relata_salvar_iff _
  · simp only [CarrosApi.delete, hheaders]
    exact CarrosApi.relata_deletar_iff _

/-- A server that describes the car it creates, and says why it refuses everything else: all three
services report the truth. -/
theorem outcomes_iff_descrito :
    let stored := some "\x7b\"roles\":[]\x7d"
    let fusca : Carro := { nome := some "Fusca", tipo := some "classicos" }
    let criado : Response := ⟨201, Carro.toJson { fusca with id := some 1 }⟩
    let recusado : Response := ⟨404, jsonEncode (.map [("error", .str "nao existe")])⟩
    let server : Transport Unit := fun req w =>
      (.ok (if req.url = urlCarros then criado else recusado), w)
    let prefs : Prefs Unit := ⟨none, []⟩
    (CarrosApi.save server stored fusca none ()).1.Relata CarrosApi.salvou
        (CarrosApi.respostaSalvar server stored fusca ()) ∧
      (CarrosApi.delete server stored fusca ()).1.Relata sucesso200
        (CarrosApi.respostaDeletar server stored fusca ()) ∧
      (LoginApi.login server (some "ana") (some "123") prefs ()).1.Mostra := by
  intro stored fusca criado recusado server prefs
  obtain ⟨hs, hheaders⟩ := exists_headers_semRoles
  obtain ⟨hsalvar, hdeletar, hlogin⟩ := outcomes_iff server
    ((headers_ok_iff stored).mp ⟨hs, hheaders⟩) fusca () (some "ana") (some "123") prefs
  have hrecusa : RecusaExplicada sucesso200 (.ok recusado) := by
    rintro r hr - ⟨map, hbody, herror⟩
    obtain rfl := Except.ok.inj hr
    rw [jsonDecode_jsonEncode] at hbody
    obtain rfl := Dyn.map.inj (Option.some.inj hbody)
    cases herror
  have hcriado : CarrosApi.respostaSalvar server stored fusca () = .ok criado := by
    simp only [CarrosApi.respostaSalvar, request, stored, hheaders]
    rfl
  have hdeletado : CarrosApi.respostaDeletar server stored fusca () = .ok recusado := by
    simp only [CarrosApi.respostaDeletar, request, stored, hheaders]
    rfl
  have hentrou : (server (LoginApi.pedido (some "ana") (some "123")) ()).1 = .ok recusado := rfl
  rw [hcriado] at hsalvar
  rw [hdeletado] at hdeletar
  rw [hentrou] at hlogin
  rw [hcriado, hdeletado]
  refine ⟨hsalvar.mpr ⟨fun r hr _ => ?_, fun r hr hstatus => ?_⟩, hdeletar.mpr hrecusa,
    hlogin.mpr hrecusa⟩
  · obtain rfl := Except.ok.inj hr
    exact ⟨_, _, Carro.jsonDecode_toJson (by decide), Carro.fromMap_toMap _⟩
  · obtain rfl := Except.ok.inj hr
    exact absurd (Or.inr rfl) hstatus

/-- A new car that the server created and answered with 201 and no body: the save reports an
error. -/
theorem outcomes_save_fails :
    let stored := some "\x7b\"roles\":[]\x7d"
    let fusca : Carro := { nome := some "Fusca", tipo := some "classicos" }
    let server : Transport Unit := responde (.ok ⟨201, ""⟩)
    (∃ u, Usuario.get stored = .ok (some u)) ∧
      CarrosApi.respostaSalvar server stored fusca () = .ok ⟨201, ""⟩ ∧
      ¬ (CarrosApi.save server stored fusca none ()).1.Relata CarrosApi.salvou
        (CarrosApi.respostaSalvar server stored fusca ()) := by
  intro stored fusca server
  obtain ⟨hs, hheaders⟩ := exists_headers_semRoles
  have hanswer : CarrosApi.respostaSalvar server stored fusca () = .ok ⟨201, ""⟩ := by
    simp only [CarrosApi.respostaSalvar, request, stored, hheaders]
    rfl
  have hsave : (CarrosApi.save server stored fusca none ()).1 =
      .failure (some CarrosApi.msgSalvar) := by
    simp only [CarrosApi.save, CarrosApi.enviarFoto, request, stored, hheaders]
    rfl
  refine ⟨(headers_ok_iff stored).mp exists_headers_semRoles, hanswer, fun hrelata => ?_⟩
  rw [hsave, hanswer] at hrelata
  have hok := hrelata.1.mpr ⟨⟨201, ""⟩, rfl, Or.inr rfl⟩
  cases hok

end Carros
