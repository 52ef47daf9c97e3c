import Carros.Base.StepRun
import Carros.Session.Prefs

/-!
# The tab of the home page

`_iniTabs` of `pages/carros/home_page.dart`, over the preferences it shares with the session.  A
home page opens on tab 0, reads `tabIdx` without anything else waiting for it, goes to the tab it
read and only then listens to its controller; from then on every notification stores the tab.
Notifications come when a tab is chosen, and again when the animation to it ends.

`Lembranca` says what this is for: a tab is remembered, pages open on it, and a tab chosen on a page
that is ready is remembered.  What a user chooses on a page that is not ready is thrown away.
`Abas.abas_refinam` proves that the pages over the preferences are this, in every run with any
number of pages, sessions saved and cleared in between, reads and writes taking effect at any time,
and restarts that lose what is pending.
-/

namespace Carros

open Dart

/-! ## The home pages -/

/-- Who waits for a read of the preferences. -/
inductive LeitorPrefs where
  /-- `_iniTabs` of a home page. -/
  | home (h : ℕ)
  /-- A `Usuario.get`. -/
  | sessao
  deriving DecidableEq, Repr

/-- `_HomePageState`: the tab of its controller, and whether the listener is attached. -/
structure HomeAba where
  index : Fin 4
  ouvindo : Bool
  aberta : Bool
  deriving DecidableEq, Repr

/-- The home pages opened since the app was started, and the preferences. -/
structure Abas where
  prefs : SharedPreferences LeitorPrefs
  homes : List HomeAba
  /-- How often `_iniTabs` threw after its await. -/
  falhas : ℕ

/-- What can happen. -/
inductive AbasPasso where
  /-- A home page opens. -/
  | abrir
  /-- A tab is chosen on a home page. -/
  | escolher (h : ℕ) (i : Fin 4)
  /-- The animation of a home page ends. -/
  | assentar (h : ℕ)
  /-- A home page is left. -/
  | fechar (h : ℕ)
  /-- The oldest pending operation on the preferences takes effect. -/
  | entregar
  /-- A session is saved or cleared. -/
  | sessao (c : SessionCall)
  /-- `Usuario.get` is called. -/
  | lerSessao
  /-- The app is closed and started again. -/
  | reiniciar

namespace Abas

/-- The tab a stored value is for: `getInt`, and the assertion of the controller. -/
def abaDe (stored : Option Valor) : Except DartError (Fin 4) := do
  let index ← Prefs.getInt stored
  if h : 0 ≤ index ∧ index < 4 then .ok ⟨index.toNat, by omega⟩ else .error .assertionError

/-- The listener of the controller. -/
def notificar (s : Abas) (home : HomeAba) : Abas :=
  if home.ouvindo then { s with prefs := Prefs.setInt s.prefs chaveAba home.index.val } else s

/-- `_iniTabs` after its await. -/
def restaurar (s : Abas) (h : ℕ) (stored : Option Valor) : Abas :=
  match s.homes[h]?, abaDe stored with
  | some home, .ok index =>
    { s with homes := s.homes.set h { home with index, ouvindo := true } }
  | _, _ => { s with falhas := s.falhas + 1 }

/-- One step. -/
def step (s : Abas) : AbasPasso → Option Abas
  | .abrir =>
    some { s with
      prefs := s.prefs.issue chaveAba (.read (.home s.homes.length))
      homes := s.homes ++ [⟨0, false, true⟩] }
  | .escolher h i =>
    match s.homes[h]? with
    | some home =>
      if home.aberta = false then none
      -- The controller notifies nobody when the tab is the one it has.
      else if i = home.index then some s
      else
        some ({ s with homes := s.homes.set h { home with index := i } }.notificar
          { home with index := i })
    | none => none
  | .assentar h => (s.homes[h]?).map fun home => s.notificar home
  | .fechar h =>
    (s.homes[h]?).map fun home => { s with homes := s.homes.set h { home with aberta := false } }
  | .entregar =>
    match s.prefs.queue with
    | [] => none
    | ⟨key, .read (.home h)⟩ :: _ =>
      some ({ s with prefs := s.prefs.deliver }.restaurar h (s.prefs.value key))
    | _ :: _ => some { s with prefs := s.prefs.deliver }
  | .sessao c => some { s with prefs := c.emit s.prefs }
  | .lerSessao => some { s with prefs := s.prefs.issue chaveUsuario (.read .sessao) }
  | .reiniciar => some { s with prefs := s.prefs.crash, homes := [] }

/-- A fresh install. -/
def inicio : Abas := ⟨⟨fun _ => none, []⟩, [], 0⟩

end Abas

/-! ## What they are for -/

/-- A home page: it waits for its tab, or it shows it. -/
inductive HomeLembrada where
  | restaurando (aba : Fin 4)
  | pronta (aba : Fin 4)
  deriving DecidableEq, Repr

/-- The tab remembered now, the tabs remembered so far, and the home pages. -/
structure Lembranca where
  ultima : Fin 4
  passadas : List (Fin 4)
  homes : List HomeLembrada
  deriving DecidableEq, Repr

/-- What a user does. -/
inductive AcaoAba where
  | abrir
  | escolher (h : ℕ) (i : Fin 4)
  | assentar (h : ℕ)
  | reiniciar
  deriving DecidableEq, Repr

/-- What can happen: an action, with the tab that survives for a restart, or a page gets its tab. -/
inductive LembrancaPasso where
  | abrir
  | escolher (h : ℕ) (i : Fin 4)
  | assentar (h : ℕ)
  | reiniciar (aba : Fin 4)
  | restaurar (h : ℕ)
  deriving DecidableEq, Repr

/-- The action of a step over the preferences. -/
def AbasPasso.acao : AbasPasso → Option AcaoAba
  | .abrir => some .abrir
  | .escolher h i => some (.escolher h i)
  | .assentar h => some (.assentar h)
  | .reiniciar => some .reiniciar
  | _ => none

/-- The action of a step. -/
def LembrancaPasso.acao : LembrancaPasso → Option AcaoAba
  | .abrir => some .abrir
  | .escolher h i => some (.escolher h i)
  | .assentar h => some (.assentar h)
  | .reiniciar _ => some .reiniciar
  | .restaurar _ => none

namespace Lembranca

/-- Remember a tab. -/
def lembrar (m : Lembranca) (aba : Fin 4) : Lembranca :=
  { m with ultima := aba, passadas := m.passadas ++ [aba] }

/-- One step. -/
def step (m : Lembranca) : LembrancaPasso → Option Lembranca
  | .abrir => some { m with homes := m.homes ++ [.restaurando m.ultima] }
  | .escolher h i =>
    match m.homes[h]? with
    | some (.pronta aba) =>
      if i = aba then some m
      else some ({ m with homes := m.homes.set h (.pronta i) }.lembrar i)
    | some (.restaurando _) => some m
    | none => none
  | .assentar h =>
    match m.homes[h]? with
    | some (.pronta aba) => some (m.lembrar aba)
    | some (.restaurando _) => some m
    | none => none
  | .restaurar h =>
    match m.homes[h]? with
    | some (.restaurando aba) => some { m with homes := m.homes.set h (.pronta aba) }
    | _ => none
  | .reiniciar aba => if aba ∈ m.passadas then some { m with ultima := aba, homes := [] } else none

/-- Nothing but tab 0 is remembered. -/
def inicio : Lembranca := ⟨0, [0], []⟩

end Lembranca

end Carros
