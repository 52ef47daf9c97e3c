import Carros.Base.StepRun
import Carros.Favoritos.FavoritoService
import Carros.Local.CarrosBloc
import Carros.Session.LoginApi
import Mathlib.Control.Monad.Writer

/-!
# Disposed objects

The asynchronous functions of `CarrosBloc`, `LoginBloc`, `CarroPage` and `CarroFormPage`, cut at
their `await`s, with the objects they belong to: a bloc has a stream controller that `dispose`
closes, and the state of a page has an element and a context until it is disposed of.

An `Ato` is the part of a function between two `await`s.  It records what it does with its object,
and whether the object was still there; using a disposed object throws.  A call waits in
`Sistema.pendentes` for what it awaits, whatever becomes of its object in the meantime.

`respeita_iff` says for which runs no disposed object is used and no exception escapes.
-/

namespace Carros

open Dart Sql

namespace Descarte

/-! ## Objects and their uses -/

/-- What a function does with the object it belongs to: it adds an event to its stream, sets its
state, or shows a dialog or sends an event with its context. -/
inductive Uso where
  | add (carros : List Carro)
  | addError (e : DartError)
  | addProgresso (b : Bool)
  | setState
  | alerta (titulo : String) (msg : Option String)
  | evento (tipo : Option String)

/-- What a use of a disposed object throws: its controller is closed, its element and its context
are `null`. -/
def Uso.erro : Uso → DartError
  | .add _ => .badState
  | .addError _ => .badState
  | .addProgresso _ => .badState
  | .setState => .noSuchMethod
  | .alerta _ _ => .noSuchMethod
  | .evento _ => .noSuchMethod

/-- What a stream is told about the outcome of a fetch. -/
def Uso.deEvento : Except DartError (List Carro) → Uso
  | .ok carros => .add carros
  | .error e => .addError e

/-- The use needs no context: it adds to the stream, or sets the state. -/
def Uso.SemContexto : Uso → Prop
  | .alerta _ _ => False
  | .evento _ => False
  | _ => True

/-- Uses, with whether the object was there. -/
abbrev Registro := List (Bool × Uso)

/-- The part of an asynchronous function between two `await`s. -/
abbrev Ato := ExceptT DartError (WriterT Registro Id)

/-- What a part of a function comes to. -/
def Ato.resultado {α : Type} (x : Ato α) : Except DartError α := (WriterT.run (ExceptT.run x)).1

/-- What a part of a function does with its object. -/
def Ato.usos {α : Type} (x : Ato α) : Registro := (WriterT.run (ExceptT.run x)).2

/-- A use of an object that is there or not. -/
def usar (vivo : Bool) (u : Uso) : Ato Unit := do
  (tell [(vivo, u)] : WriterT Registro Id PUnit)
  if vivo then pure () else throw u.erro

/-! ## The functions, from one `await` to the next -/

/-- What a call awaits. -/
inductive Espera where
  /-- `isNetworkOn`. -/
  | rede (tipo : String)
  /-- `CarroDAO.findAllByTipo`. -/
  | tabela (tipo : String)
  /-- `CarrosApi.getCarros`. -/
  | http (tipo : String)
  /-- `LoginApi.login`. -/
  | api
  /-- `FirebaseService.login`. -/
  | fire
  /-- `document.get` in `favoritar2`. -/
  | documento (c : Carro)
  /-- `CarrosApi.save`. -/
  | salvar (c : Carro)
  /-- `Future.delayed`. -/
  | atraso
  deriving DecidableEq

/-- What an `await` comes to.  The services that return an `ApiResponse` catch everything. -/
def Espera.Resultado : Espera → Type
  | .rede _ => Except DartError (Option Bool)
  | .tabela _ => Except DartError (List Carro)
  | .http _ => Except DartError (List Carro)
  | .api => ApiResponse Usuario
  | .fire => ApiResponse Dyn
  | .documento _ => Except DartError Bool
  | .salvar _ => ApiResponse Bool
  | .atraso => Unit

end Descarte

open Descarte

namespace CarrosBloc

/-- `fetch` after `isNetworkOn`; the negation of `null` throws. -/
def aposRede (vivo : Bool) (tipo : String) (networkOn : Except DartError (Option Bool)) :
    Ato (Option Espera) := do
  try
    match ← networkOn with
    | none => throw .assertionError
    | some false => pure (some (.tabela tipo))
    | some true => pure (some (.http tipo))
  catch e =>
    usar vivo (.addError e)
    pure none

/-- `fetch` after `findAllByTipo`. -/
def aposTabela (vivo : Bool) (carros : Except DartError (List Carro)) :
    Ato (Option (List Carro)) := do
  try
    let carros ← carros
    usar vivo (.add carros)
    pure (some carros)
  catch e =>
    usar vivo (.addError e)
    pure none

/-- `fetch` after `getCarros`; the saves it starts first are those of `CarrosBloc.online`. -/
def aposHttp (vivo : Bool) (carros : Except DartError (List Carro)) : Ato Unit := do
  try
    let carros ← carros
    usar vivo (.add carros)
  catch e =>
    usar vivo (.addError e)

/-- The parts of a call of `fetch` one after the other. -/
def partes {σ : Type} (vivo : Bool) (transport : Transport σ) (stored : Option String)
    (connectivity : ConnectivityResult) (db : Database) (tipo : String) (w : σ) : Ato Unit := do
  match ← aposRede vivo tipo (.ok (isNetworkOn connectivity)) with
  | some (.tabela tipo) =>
    let _ ← aposTabela vivo (CarroDAO.findAllByTipo db (some tipo))
    return ()
  | some (.http tipo) => aposHttp vivo (CarrosApi.getCarros transport stored tipo w).1
  | _ => return ()

/-- On a bloc that is there to the end they add the event of the call, and nothing else. -/
theorem usos_partes {σ : Type} (transport : Transport σ) (stored : Option String)
    (connectivity : ConnectivityResult) (db : Database) (tipo : String) (w : σ) :
    (partes true transport stored connectivity db tipo w).usos =
      [(true, .deEvento (fetch transport stored connectivity db tipo w).1.event)] := by
  cases connectivity with
  | none => rfl
  | mobile =>
    change (do
      let _ ← aposTabela true (CarroDAO.findAllByTipo db (some tipo))
      return () : Ato Unit).usos = [(true, .deEvento (offline db tipo).event)]
    rw [offline]
    cases CarroDAO.findAllByTipo db (some tipo) <;> rfl
  | wifi =>
    change (aposHttp true (CarrosApi.getCarros transport stored tipo w).1).usos =
      [(true, .deEvento (online (CarrosApi.getCarros transport stored tipo w).1).event)]
    cases (CarrosApi.getCarros transport stored tipo w).1 <;> rfl

end CarrosBloc

namespace FavoritosBloc

/-- `FavoritosBloc.fetch` after `FavoritoService.getCarros`: it asks whether its controller is
closed before it adds an error. -/
def aposLista (vivo : Bool) (carros : Except DartError (List Carro)) : Ato Unit := do
  try
    let carros ← carros
    usar vivo (.add carros)
  catch e =>
    if vivo then usar vivo (.addError e) else pure ()

/-- Nothing escapes from it, whenever its object is disposed of. -/
theorem resultado_aposLista (vivo : Bool) (carros : Except DartError (List Carro)) :
    (aposLista vivo carros).resultado = .ok () := by
  cases vivo <;> cases carros <;> rfl

end FavoritosBloc

namespace LoginBloc

/-- `loginAPI` and `loginFire` up to their `await`. -/
def antes (vivo : Bool) : Ato Unit := usar vivo (.addProgresso true)

/-- `loginAPI` after `LoginApi.login`. -/
def aposApi (vivo : Bool) (response : ApiResponse Usuario) : Ato (ApiResponse Usuario) := do
  usar vivo (.addProgresso false)
  return response

/-- The cast of the `return` of `loginFire`: what `FirebaseService.login` returns was built as an
`ApiResponse<dynamic>`, and whatever it holds, that is no `ApiResponse<Usuario>`. -/
def comoUsuario (_response : ApiResponse Dyn) : Except DartError (ApiResponse Usuario) :=
  .error .typeError

/-- `loginFire` after `FirebaseService.login`. -/
def aposFire (vivo : Bool) (response : ApiResponse Dyn) : Ato (ApiResponse Usuario) := do
  usar vivo (.addProgresso false)
  comoUsuario response

end LoginBloc

namespace CarroPage

/-- `_onClickFavorito` after the read of `favoritar2`, whose write is not waited for: the colour is
red or not. -/
def aposDocumento (vivo : Bool) (c : Carro) (existe : Except DartError Bool) : Ato Bool := do
  let existe ← existe
  let favorito := (FavoritoService.decidir existe c).1
  usar vivo .setState
  return favorito

end CarroPage

namespace CarroFormPage

/-- `_onClickSalvar` up to its first `await`: nothing if the form is not valid. -/
def antes (vivo formOk : Bool) (c : Carro) : Ato (Option Espera) := do
  if formOk then
    usar vivo .setState
    return some (.salvar c)
  else
    return none

/-- `_onClickSalvar` after `save`. -/
def aposSalvar (vivo : Bool) (c : Carro) (response : ApiResponse Bool) : Ato Unit := do
  if response.ok then
    usar vivo (.alerta "Sucesso" (some "Carro Salva com sucesso !"))
    usar vivo (.evento c.tipo)
  else
    usar vivo (.alerta "Erro" response.msg)

/-- `_onClickSalvar` after its delay. -/
def aposAtraso (vivo : Bool) : Ato Unit := usar vivo .setState

end CarroFormPage

namespace Descarte

/-- A call goes on after an `await`, up to the next one. -/
def continuar (vivo : Bool) : (e : Espera) → e.Resultado → Ato (Option Espera)
  | .rede tipo, r => CarrosBloc.aposRede vivo tipo r
  | .tabela _, r => do
    let _ ← CarrosBloc.aposTabela vivo r
    return none
  | .http _, r => do
    CarrosBloc.aposHttp vivo r
    return none
  | .api, r => do
    let _ ← LoginBloc.aposApi vivo r
    return none
  | .fire, r => do
    let _ ← LoginBloc.aposFire vivo r
    return none
  | .documento c, r => do
    let _ ← CarroPage.aposDocumento vivo c r
    return none
  | .salvar c, r => do
    CarroFormPage.aposSalvar vivo c r
    return some .atraso
  | .atraso, _ => do
    CarroFormPage.aposAtraso vivo
    return none

/-! ## The system -/

/-- What an object is. -/
inductive Classe where
  | carrosBloc
  | loginBloc
  | carroPage
  | carroFormPage
  deriving DecidableEq

/-- An object, and whether it is there or disposed of. -/
structure Titular where
  classe : Classe
  vivo : Bool

/-- The functions. -/
inductive Metodo where
  | fetch (tipo : String)
  | loginAPI
  | loginFire
  | onClickFavorito (c : Carro)
  | onClickSalvar (formOk : Bool) (c : Carro)

/-- The class of the objects a function belongs to. -/
def Metodo.classe : Metodo → Classe
  | .fetch _ => .carrosBloc
  | .loginAPI => .loginBloc
  | .loginFire => .loginBloc
  | .onClickFavorito _ => .carroPage
  | .onClickSalvar _ _ => .carroFormPage

/-- A function is called: it goes up to its first `await`. -/
def Metodo.iniciar (vivo : Bool) : Metodo → Ato (Option Espera)
  | .fetch tipo => return some (.rede tipo)
  | .loginAPI => do
    LoginBloc.antes vivo
    return some .api
  | .loginFire => do
    LoginBloc.antes vivo
    return some .fire
  | .onClickFavorito c => return some (.documento c)
  | .onClickSalvar formOk c => CarroFormPage.antes vivo formOk c

/-- The objects, what calls of which of them await, how objects were used, and the errors that
escaped from calls. -/
structure Sistema where
  titulares : List Titular
  pendentes : List (ℕ × Espera)
  usos : Registro
  naoCapturados : List DartError

/-- What can happen. -/
inductive Passo where
  /-- A page is opened, with its blocs. -/
  | abrir (classe : Classe)
  /-- A function of object `i` is called. -/
  | chamar (i : ℕ) (metodo : Metodo)
  /-- Object `i` is disposed of. -/
  | descartar (i : ℕ)
  /-- What call `k` awaits is there. -/
  | completar (k : ℕ) (e : Espera) (r : e.Resultado)

namespace Sistema

/-- Nothing is open. -/
def inicio : Sistema := ⟨[], [], [], []⟩

/-- Object `i` is not disposed of. -/
def vivo (s : Sistema) (i : ℕ) : Bool :=
  match s.titulares[i]? with
  | some titular => titular.vivo
  | none => false

/-- A call of object `i` goes on by one part. -/
def executar (s : Sistema) (i : ℕ) (x : Ato (Option Espera)) : Sistema :=
  match x.resultado with
  | .ok (some e) => { s with pendentes := s.pendentes ++ [(i, e)], usos := s.usos ++ x.usos }
  | .ok none => { s with usos := s.usos ++ x.usos }
  | .error e =>
    { s with usos := s.usos ++ x.usos, naoCapturados := s.naoCapturados ++ [e] }

/-- One step; functions are called by pages that are there. -/
def step (s : Sistema) : Passo → Option Sistema
  | .abrir classe => some { s with titulares := s.titulares ++ [⟨classe, true⟩] }
  | .chamar i metodo =>
    match s.titulares[i]? with
    | some ⟨classe, true⟩ =>
      if classe = metodo.classe then some (s.executar i (metodo.iniciar true)) else none
    | _ => none
  | .descartar i =>
    match s.titulares[i]? with
    | some ⟨classe, true⟩ => some { s with titulares := s.titulares.set i ⟨classe, false⟩ }
    | _ => none
  | .completar k e r =>
    match s.pendentes[k]? with
    | some (i, e') =>
      if e' = e then
        some ({ s with pendentes := s.pendentes.eraseIdx k }.executar i (continuar (s.vivo i) e r))
      else none
    | none => none

/-- No event was added to a closed controller, no disposed state was set, and no error escaped. -/
def Respeita (s : Sistema) : Prop :=
  (∀ u, (false, u) ∈ s.usos → ¬ u.SemContexto) ∧ s.naoCapturados = []

end Sistema

/-! ## What a part of a call does -/

/-- Nothing is thrown, no event is added to a closed controller, and no disposed state is set. -/
def Ato.Limpo {α : Type} (x : Ato α) : Prop :=
  (∃ a, x.resultado = .ok a) ∧ ∀ u, (false, u) ∈ x.usos → ¬ u.SemContexto

/-- The call goes on well: its object is there.  The answer of `isNetworkOn` is not told to the
object unless it is an error or `null`; a read that failed is not caught by `_onClickFavorito`, and
the cast of `loginFire` is not caught either. -/
def Espera.EmDia (vivo : Bool) : (e : Espera) → e.Resultado → Prop
  | .rede _, r => vivo = true ∨ ∃ b : Bool, r = .ok (some b)
  | .documento _, r => vivo = true ∧ ∃ b : Bool, r = .ok b
  | .fire, _ => False
  | _, _ => vivo = true

/-- A part that returns and finds its object there is good. -/
lemma Ato.limpo_of_ok {α : Type} {x : Ato α} {a : α} (h : x.resultado = .ok a)
    (husos : x.usos.all Prod.fst = true) : x.Limpo := by
  refine ⟨⟨a, h⟩, fun u hu => ?_⟩
  exact absurd (List.all_eq_true.mp husos _ hu) (by simp)

/-- A part that throws is not. -/
lemma Ato.not_limpo_of_error {α : Type} {x : Ato α} {e : DartError} (h : x.resultado = .error e) :
    ¬ x.Limpo := by
  rintro ⟨⟨a, ha⟩, -⟩
  rw [h] at ha
  cases ha

/-- A call that goes on if its object is there, and throws if it is not, goes on well exactly in the
first case. -/
lemma continuar_limpo_iff_vivo {vivo : Bool} {e : Espera} {r : e.Resultado} {a : Option Espera}
    {err : DartError} (hvivo : (continuar true e r).resultado = .ok a)
    (husos : (continuar true e r).usos.all Prod.fst = true)
    (hdescartado : (continuar false e r).resultado = .error err) :
    (continuar vivo e r).Limpo ↔ vivo = true := by
  cases vivo with
  | true => exact iff_of_true (Ato.limpo_of_ok hvivo husos) rfl
  | false => exact iff_of_false (Ato.not_limpo_of_error hdescartado) Bool.false_ne_true

/-- A call goes on well exactly if its object is there and what it awaited is as foreseen. -/
lemma continuar_limpo_iff (vivo : Bool) (e : Espera) (r : e.Resultado) :
    (continuar vivo e r).Limpo ↔ e.EmDia vivo r := by
  cases e with
  | rede tipo =>
    change Except DartError (Option Bool) at r
    -- Only an error and `null` are told to the object.
    rcases r with err | _ | b
    · refine (continuar_limpo_iff_vivo rfl rfl rfl).trans (or_iff_left ?_).symm
      rintro ⟨b, hb⟩
      cases hb
    · refine (continuar_limpo_iff_vivo rfl rfl rfl).trans (or_iff_left ?_).symm
      rintro ⟨b, hb⟩
      cases hb
    · cases b <;> exact iff_of_true (Ato.limpo_of_ok rfl rfl) (.inr ⟨_, rfl⟩)
  | tabela tipo =>
    change Except DartError (List Carro) at r
    cases r <;> exact continuar_limpo_iff_vivo rfl rfl rfl
  | http tipo =>
    change Except DartError (List Carro) at r
    cases r <;> exact continuar_limpo_iff_vivo rfl rfl rfl
  | api => exact continuar_limpo_iff_vivo rfl rfl rfl
  | fire => cases vivo <;> exact iff_of_false (Ato.not_limpo_of_error rfl) not_false
  | documento c =>
    change Except DartError Bool at r
    rcases r with err | b
    · refine iff_of_false (Ato.not_limpo_of_error rfl) ?_
      rintro ⟨-, b, hb⟩
      cases hb
    · exact (continuar_limpo_iff_vivo rfl rfl rfl).trans (and_iff_left ⟨b, rfl⟩).symm
  | salvar c =>
    change ApiResponse Bool at r
    obtain ⟨ok, msg, result⟩ := r
    cases ok <;> exact continuar_limpo_iff_vivo rfl rfl rfl
  | atraso => exact continuar_limpo_iff_vivo rfl rfl rfl

/-- A call starts well. -/
lemma iniciar_limpo (metodo : Metodo) : (metodo.iniciar true).Limpo := by
  cases metodo with
  | onClickSalvar formOk c => cases formOk <;> exact Ato.limpo_of_ok rfl rfl
  | _ => exact Ato.limpo_of_ok rfl rfl

/-! ## Runs -/

namespace Sistema

/-- The step does not go on with a call whose object is disposed of, or whose `await` came to
something it does not catch. -/
def EmDia (s : Sistema) : Passo → Prop
  | .completar k e r => ∀ i, s.pendentes[k]? = some (i, e) → e.EmDia (s.vivo i) r
  | _ => True

/-- A part of a call keeps everything right exactly if it is good. -/
lemma respeita_executar (s : Sistema) (i : ℕ) (x : Ato (Option Espera)) :
    (s.executar i x).Respeita ↔ s.Respeita ∧ x.Limpo := by
  have husos : (s.executar i x).usos = s.usos ++ x.usos := by
    rw [executar]
    split <;> rfl
  have hcapturados : (s.executar i x).naoCapturados = [] ↔
      s.naoCapturados = [] ∧ ∃ a, x.resultado = .ok a := by
    rw [executar]
    split
    · rename_i e h
      simp [h]
    · rename_i h
      simp [h]
    · rename_i e h
      simp [h]
  rw [Respeita, Respeita, Ato.Limpo, husos, hcapturados]
  constructor
  · rintro ⟨hall, hs, hx⟩
    exact ⟨⟨fun u hu => hall u (List.mem_append_left _ hu), hs⟩, hx,
      fun u hu => hall u (List.mem_append_right _ hu)⟩
  · rintro ⟨⟨hall, hs⟩, hx, hall'⟩
    refine ⟨fun u hu => ?_, hs, hx⟩
    rcases List.mem_append.mp hu with hu | hu
    · exact hall u hu
    · exact hall' u hu

/-- A step keeps everything right exactly if it goes on with a call whose object is there. -/
lemma respeita_step {s s' : Sistema} {p : Passo} (h : s.step p = some s') :
    s'.Respeita ↔ s.Respeita ∧ s.EmDia p := by
  cases p with
  | abrir classe =>
    obtain rfl := Option.some.inj h
    exact (and_iff_left trivial).symm
  | chamar i metodo =>
    simp only [step] at h
    split at h
    · split at h
      · obtain rfl := Option.some.inj h
        rw [respeita_executar]
        exact and_congr_right fun _ => iff_of_true (iniciar_limpo metodo) trivial
      · cases h
    · cases h
  | descartar i =>
    simp only [step] at h
    split at h
    · obtain rfl := Option.some.inj h
      exact (and_iff_left trivial).symm
    · cases h
  | completar k e r =>
    simp only [step] at h
    split at h
    · rename_i i e' hk
      split at h
      · rename_i heq
        subst heq
        obtain rfl := Option.some.inj h
        rw [respeita_executar, continuar_limpo_iff]
        refine and_congr_right fun _ => ⟨fun hdia j hj => ?_, fun hdia => hdia i hk⟩
        obtain ⟨rfl, -⟩ := Prod.mk.inj (Option.some.inj (hk.symm.trans hj))
        exact hdia
      · cases h
    · cases h

end Sistema

end Descarte

/-- **Disposed objects.**  A run adds no event to a closed controller, sets no disposed state and
lets no error escape if and only if every call it goes on with finds its object there and what it
awaited as foreseen. -/
theorem respeita_iff (passos : List Passo) (s : Sistema)
    (hrun : StepRun.run Sistema.step .inicio passos = some s) :
    s.Respeita ↔ StepRun.RunMeets Sistema.step Sistema.EmDia .inicio passos := by
  have hinicio : Sistema.inicio.Respeita := ⟨fun u hu => (by cases hu), rfl⟩
  rw [StepRun.run_iff (fun _ _ _ h => Sistema.respeita_step h) hrun]
  exact and_iff_right hinicio

/-- A page of cars whose list arrives before it is closed. -/
theorem respeita_iff_fetch :
    let passos : List Passo :=
      [.abrir .carrosBloc, .chamar 0 (.fetch "classicos"),
        .completar 0 (.rede "classicos") (.ok (some true)),
        .completar 0 (.http "classicos") (.ok []), .descartar 0]
    ∃ s, StepRun.run Sistema.step .inicio passos = some s ∧ s.Respeita ∧
      (s.Respeita ↔ StepRun.RunMeets Sistema.step Sistema.EmDia .inicio passos) := by
  intro passos
  let s : Sistema := ⟨[⟨.carrosBloc, false⟩], [], [(true, .add [])], []⟩
  have hrun : StepRun.run Sistema.step .inicio passos = some s := rfl
  exact ⟨s, hrun, ⟨by simp [s], rfl⟩, respeita_iff passos s hrun⟩

/-- A page of cars is closed before its list arrives: `add` throws, the handler adds the error to
the same closed controller, and what that throws escapes. -/
theorem respeita_fails :
    let passos : List Passo :=
      [.abrir .carrosBloc, .chamar 0 (.fetch "classicos"),
        .completar 0 (.rede "classicos") (.ok (some true)), .descartar 0,
        .completar 0 (.http "classicos") (.ok [])]
    ∃ s, StepRun.run Sistema.step .inicio passos = some s ∧
      s.usos = [(false, .add []), (false, .addError .badState)] ∧
      s.naoCapturados = [.badState] ∧ ¬ s.Respeita := by
  intro passos
  refine ⟨_, rfl, rfl, rfl, ?_⟩
  rintro ⟨-, hvazio⟩
  cases hvazio

end Carros
