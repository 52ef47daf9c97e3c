import Carros.Base.PendingStore
import Carros.Session.Codec

/-!
# The preferences

The class `Prefs` of `utils/prefs.dart` over `SharedPreferences`, a store of typed values with two
keys the app uses: `user.prefs` and `tabIdx`.  A getter gives a default for a key without a value,
and throws for a value of another type.

The calls of `Usuario` write `user.prefs` only (`SessionCall.register_emit_of_ne`), and what they
write there is what they write in the register they are modelled over (`SessionCall.settled_emit`).
-/

namespace Carros

open Dart

variable {ρ : Type*}

/-- A value of the preferences. -/
inductive Valor where
  | bool (b : Bool)
  | int (n : Int)
  | str (s : String)
  deriving DecidableEq, Repr

/-- `SharedPreferences`. -/
abbrev SharedPreferences (ρ : Type*) := PendingStore String Valor ρ

namespace Prefs

/-- `getInt`, given what is stored. -/
def getInt : Option Valor → Except DartError Int
  | none => .ok 0
  | some (.int n) => .ok n
  | some _ => .error .typeError

/-- `getString`, given what is stored. -/
def getString : Option Valor → Except DartError String
  | none => .ok ""
  | some (.str s) => .ok s
  | some _ => .error .typeError

/-- `setInt`. -/
def setInt (prefs : SharedPreferences ρ) (key : String) (i : Int) : SharedPreferences ρ :=
  prefs.issue key (.write (.int i))

/-- `setString`. -/
def setString (prefs : SharedPreferences ρ) (key s : String) : SharedPreferences ρ :=
  prefs.issue key (.write (.str s))

end Prefs

/-- The key of the session. -/
def chaveUsuario : String := "user.prefs"

/-- The key of the tab of the home page. -/
def chaveAba : String := "tabIdx"

/-- The two keys are different. -/
lemma chaveAba_ne : chaveAba ≠ chaveUsuario := by decide

/-- `Usuario.get`: `getString`, then the decoder. -/
def Usuario.getPrefs (stored : Option Valor) : Except DartError (Option Usuario) := do
  let json ← Prefs.getString stored
  Usuario.get (some json)

/-- `Usuario.save` and `Usuario.clear` on the preferences. -/
def SessionCall.emit (prefs : SharedPreferences ρ) : SessionCall → SharedPreferences ρ
  | .save u =>
    match u.val.saveText with
    | .ok text => Prefs.setString prefs chaveUsuario text
    | .error _ => prefs
  | .clear => Prefs.setString prefs chaveUsuario Usuario.clearText

/-- A stored text is read the same way through the preferences. -/
lemma Usuario.getPrefs_map_str (stored : Option String) :
    Usuario.getPrefs (stored.map .str) = Usuario.get stored := by
  cases stored <;> rfl

/-- After a call the preferences settle on what the call writes. -/
lemma SessionCall.settled_emit (prefs : SharedPreferences ρ) (p : Prefs ρ) (c : SessionCall) :
    ((c.emit prefs).register chaveUsuario).settled = (c.make p).settled.map .str := by
  cases c with
  | clear =>
    rw [SessionCall.emit, Prefs.setString, PendingStore.register_issue, SessionCall.make,
      Usuario.clear, PendingRegister.settled_issue_write, PendingRegister.settled_issue_write]
    rfl
  | save u =>
    obtain ⟨text, htext⟩ := u.property.roles.exists_saveText
    simp only [SessionCall.emit, SessionCall.make, Usuario.save, htext, Except.map,
      Prefs.setString, PendingStore.register_issue, PendingRegister.settled_issue_write]
    rfl

/-- A call waits for nothing: the pending reads were there before. -/
lemma SessionCall.mem_queue_of_emit {prefs : SharedPreferences ρ} {c : SessionCall} {key : String}
    {who : ρ} (h : ⟨key, .read who⟩ ∈ (c.emit prefs).queue) : ⟨key, .read who⟩ ∈ prefs.queue := by
  have hissue : ∀ text, ⟨key, .read who⟩ ∈ (Prefs.setString prefs chaveUsuario text).queue →
      ⟨key, .read who⟩ ∈ prefs.queue := by
    intro text hmem
    rcases List.mem_append.mp hmem with hmem | hmem
    · exact hmem
    · cases List.mem_singleton.mp hmem
  cases c with
  | clear => exact hissue _ h
  | save u =>
    obtain ⟨text, htext⟩ := u.property.roles.exists_saveText
    simp only [SessionCall.emit, htext] at h
    exact hissue text h

/-- A call does not touch the other keys. -/
lemma SessionCall.register_emit_of_ne (prefs : SharedPreferences ρ) {k : String}
    (hk : k ≠ chaveUsuario) (c : SessionCall) :
    (c.emit prefs).register k = prefs.register k := by
  cases c with
  | clear => exact PendingStore.register_issue_of_ne (Ne.symm hk) _
  | save u =>
    obtain ⟨text, htext⟩ := u.property.roles.exists_saveText
    simp only [SessionCall.emit, htext]
    exact PendingStore.register_issue_of_ne (Ne.symm hk) _

end Carros
