import Carros.Base.PendingRegister
import Carros.Entity.Usuario

/-!
# The stored session

`Usuario.save` and `Usuario.clear` issue a write of `user.prefs` and do not wait for it;
`Usuario.get` reads it back.  The preferences apply what is issued in order, so they are a
`PendingRegister`.

`get_after_calls_iff` settles when a later `get` reflects the last call of any sequence of calls,
however their writes take effect in between: always after `clear`, and after the `save` of a user
exactly when the user has roles.
-/

namespace Carros

open Dart

variable {ρ : Type*}

/-- The preferences, as far as the key `user.prefs` goes. -/
abbrev Prefs (ρ : Type*) := PendingRegister String ρ

/-- `Usuario.save`: encode the user, then issue the write. -/
def Usuario.save (u : Usuario) (prefs : Prefs ρ) : Except DartError (Prefs ρ) :=
  u.saveText.map fun text => prefs.issue (.write text)

/-- `Usuario.clear`. -/
def Usuario.clear (prefs : Prefs ρ) : Prefs ρ := prefs.issue (.write Usuario.clearText)

/-- A user as the app constructs it: its id is an `int`, and every element of its roles a nullable
string. -/
abbrev UsuarioApp := { u : Usuario // u.Readable }

/-- A call that changes the session. -/
inductive SessionCall where
  | save (u : UsuarioApp)
  | clear

/-- What happens to the preferences: a call, or a pending operation taking effect. -/
inductive SessionEvent where
  | call (c : SessionCall)
  | deliver

/-- Making a call; a `save` that throws issues nothing. -/
def SessionCall.make (prefs : Prefs ρ) : SessionCall → Prefs ρ
  | .save u =>
    match u.val.save prefs with
    | .ok prefs' => prefs'
    | .error _ => prefs
  | .clear => Usuario.clear prefs

/-- The preferences after an event. -/
def SessionEvent.step (prefs : Prefs ρ) : SessionEvent → Prefs ρ
  | .call c => c.make prefs
  | .deliver => prefs.deliver

/-- The preferences after a list of events. -/
def SessionEvent.steps (prefs : Prefs ρ) (evs : List SessionEvent) : Prefs ρ :=
  evs.foldl SessionEvent.step prefs

/-- What a `get` issued now completes with: everything issued before it takes effect first. -/
def laterGet (prefs : Prefs ρ) : Except DartError (Option Usuario) :=
  Usuario.get prefs.drain.value

/-- `get` completed with what the call stored: the saved user in all its fields, or nobody. -/
def SessionCall.Reflects (result : Except DartError (Option Usuario)) : SessionCall → Prop
  | .save u => result = .ok (some u.val)
  | .clear => result = .ok none

/-- The call does not save a user without roles. -/
def SessionCall.KeepsRoles : SessionCall → Prop
  | .save u => u.val.roles ≠ none
  | .clear => True

/-- After a call the preferences settle on the text the call writes, and `get` reads that. -/
lemma get_settled_make (prefs : Prefs ρ) (c : SessionCall) :
    Usuario.get (c.make prefs).settled =
      match c with
      | .save u => if u.val.roles = none then .error .noSuchMethod else .ok (some u.val)
      | .clear => .ok none := by
  cases c with
  | clear => simp [SessionCall.make, Usuario.clear]
  | save u =>
    obtain ⟨text, htext⟩ := u.property.roles.exists_saveText
    simp only [SessionCall.make, Usuario.save, htext, Except.map,
      PendingRegister.settled_issue_write]
    exact Usuario.get_saveText u.property.id htext

/-- Deliveries do not change what the preferences settle on. -/
lemma settled_steps_replicate_deliver (prefs : Prefs ρ) (n : ℕ) :
    (SessionEvent.steps prefs (List.replicate n .deliver)).settled = prefs.settled := by
  induction n generalizing prefs with
  | zero => rfl
  | succ n ih =>
    rw [List.replicate_succ, SessionEvent.steps, List.foldl_cons]
    exact (ih _).trans (PendingRegister.settled_deliver prefs)

/-- What a later `get` completes with depends on the last call only. -/
lemma laterGet_steps (prefs : Prefs ρ) (evs : List SessionEvent) (c : SessionCall) (n : ℕ) :
    laterGet (SessionEvent.steps prefs (evs ++ .call c :: List.replicate n .deliver)) =
      Usuario.get (c.make (SessionEvent.steps prefs evs)).settled := by
  rw [laterGet, PendingRegister.drain_eq, SessionEvent.steps, List.foldl_append, List.foldl_cons]
  exact congrArg Usuario.get (settled_steps_replicate_deliver _ n)

/-- **The session codec round trip.**  After any calls and deliveries whose last call is `c`,
followed by any number of deliveries, a later `get` completes with what `c` stored exactly when
`c` does not save a user without roles. -/
theorem get_after_calls_iff (prefs : Prefs ρ) (evs : List SessionEvent) (c : SessionCall) (n : ℕ) :
    c.Reflects (laterGet (SessionEvent.steps prefs (evs ++ .call c :: List.replicate n .deliver))) ↔
      c.KeepsRoles := by
  rw [laterGet_steps, get_settled_make]
  cases c with
  | clear => simp [SessionCall.Reflects, SessionCall.KeepsRoles]
  | save u =>
    by_cases h : u.val.roles = none
    · simp [SessionCall.Reflects, SessionCall.KeepsRoles, h]
    · simp [SessionCall.Reflects, SessionCall.KeepsRoles, h]

/-- A Firebase e-mail login stores a user that `get` cannot read back. -/
theorem get_after_firebase_login_fails :
    let u : UsuarioApp :=
      ⟨.ofFirebase ⟨some "uid", some "Ana", some "ana@mail.com", none⟩,
        Usuario.readable_ofFirebase _⟩
    let prefs : Prefs Unit := SessionEvent.steps ⟨none, []⟩ [.call (.save u)]
    ¬ (SessionCall.save u).Reflects (laterGet prefs) := by
  intro u prefs
  have h : laterGet prefs = .error .noSuchMethod := by decide +kernel
  simp [SessionCall.Reflects, h]

end Carros
