import Carros.Base.StepRun
import Carros.Local.CarrosBloc

/-!
# Overlapping fetches

Any number of online calls of `CarrosBloc.fetch` on one bloc.  A call waits first for the answer
about the network and then for what `CarrosApi.getCarros` makes of the response of the server; the
events of the stream come in the order in which the responses arrive, and nothing ties that order
to the order of the calls.

`ultimo_emitido` proves that the last event is the outcome of the call whose response arrived
last.
-/

namespace Carros

open Dart

/-- How far a call of `fetch` has come. -/
inductive Chamada where
  | rede
  | http
  | fim (event : Except DartError (List Carro))
  deriving DecidableEq

/-- What happens to the calls: the next one starts, call `k` learns that there is a network and
sends its request, or the response of call `k` arrives and `getCarros` completes. -/
inductive BlocPasso where
  | iniciar
  | rede (k : ℕ)
  | resposta (k : ℕ) (carros : Except DartError (List Carro))

/-- A bloc: its calls in the order in which they started, the numbers of those that were answered
in the order of the answers, and the events of its stream. -/
structure Bloc where
  chamadas : List Chamada
  chegadas : List ℕ
  emitidos : List (Except DartError (List Carro))

namespace Bloc

/-- A bloc before any call. -/
def inicio : Bloc := ⟨[], [], []⟩

/-- One step. -/
def step (s : Bloc) : BlocPasso → Option Bloc
  | .iniciar => some { s with chamadas := s.chamadas ++ [.rede] }
  | .rede k =>
    match s.chamadas[k]? with
    | some .rede => some { s with chamadas := s.chamadas.set k .http }
    | _ => none
  | .resposta k carros =>
    match s.chamadas[k]? with
    | some .http =>
      let event := (CarrosBloc.online carros).event
      some ⟨s.chamadas.set k (.fim event), s.chegadas ++ [k], s.emitidos ++ [event]⟩
    | _ => none

/-- What call `k` came to, once it is over. -/
def outcome (s : Bloc) (k : ℕ) : Option (Except DartError (List Carro)) :=
  match s.chamadas[k]? with
  | some (.fim event) => some event
  | _ => none

/-- Every call is over. -/
def Acabou (s : Bloc) : Prop := ∀ k, k < s.chamadas.length → (s.outcome k).isSome

/-- The last event is the outcome of the call that started last. -/
def UltimaIniciadaVence (s : Bloc) : Prop :=
  s.emitidos.getLast? = s.outcome (s.chamadas.length - 1)

/-- The events are the outcomes of the answered calls, in the order of the answers, and the
answered calls are those that are over. -/
structure Inv (s : Bloc) : Prop where
  emitidos : s.emitidos.map some = s.chegadas.map s.outcome
  chegadas : ∀ k, (s.outcome k).isSome → k ∈ s.chegadas

/-- Giving a call that waits a new state leaves the outcomes of the others. -/
lemma outcome_set {s : Bloc} {k : ℕ} (c : Chamada) {j : ℕ} (hjk : j ≠ k) :
    outcome { s with chamadas := s.chamadas.set k c } j = s.outcome j := by
  simp only [outcome, List.getElem?_set_ne (Ne.symm hjk)]

/-- What a step can do: start a call, which has no outcome yet, move a call that has none on, or
give a call that has none its outcome and emit it. -/
lemma step_cases {s s' : Bloc} {p : BlocPasso} (h : step s p = some s') :
    (s'.outcome = s.outcome ∧ s'.chegadas = s.chegadas ∧ s'.emitidos = s.emitidos) ∨
      ∃ k event, s.outcome k = none ∧ s'.outcome = Function.update s.outcome k (some event) ∧
        s'.chegadas = s.chegadas ++ [k] ∧ s'.emitidos = s.emitidos ++ [event] := by
  cases p with
  | iniciar =>
    obtain rfl := Option.some.inj h
    refine Or.inl ⟨funext fun j => ?_, rfl, rfl⟩
    rcases Nat.lt_trichotomy j s.chamadas.length with hj | rfl | hj
    · simp only [outcome, List.getElem?_append_left hj]
    · simp [outcome]
    · simp only [outcome, List.getElem?_eq_none (Nat.le_of_lt hj)]
      rw [List.getElem?_eq_none (by simpa [Nat.succ_le_iff] using hj)]
  | rede k =>
    simp only [step] at h
    split at h
    · rename_i hk
      obtain rfl := Option.some.inj h
      refine Or.inl ⟨funext fun j => ?_, rfl, rfl⟩
      by_cases hjk : j = k
      · subst hjk
        obtain ⟨hlt, hget⟩ := List.getElem?_eq_some_iff.mp hk
        simp [outcome, hlt, hget]
      · exact outcome_set _ hjk
    · cases h
  | resposta k carros =>
    simp only [step] at h
    split at h
    · rename_i hk
      obtain rfl := Option.some.inj h
      obtain ⟨hlt, -⟩ := List.getElem?_eq_some_iff.mp hk
      refine Or.inr ⟨k, _, by simp [outcome, hk], funext fun j => ?_, rfl, rfl⟩
      by_cases hjk : j = k
      · subst hjk
        simp [outcome, hlt]
      · rw [Function.update_of_ne hjk]
        exact outcome_set (s := s) _ hjk
    · cases h

/-- A step keeps the events the outcomes of the answered calls. -/
lemma Inv.step {s s' : Bloc} (hs : s.Inv) {p : BlocPasso} (h : Bloc.step s p = some s') :
    s'.Inv := by
  rcases step_cases h with ⟨ho, hc, he⟩ | ⟨k, event, hk, ho, hc, he⟩
  · constructor
    · rw [he, hc, ho]
      exact hs.emitidos
    · rw [hc, ho]
      exact hs.chegadas
  · -- The call that is answered now was not among the answered ones.
    have hnew : k ∉ s.chegadas := by
      intro hmem
      have hsome : s.outcome k ∈ s.emitidos.map some := by
        rw [hs.emitidos]
        exact List.mem_map_of_mem hmem
      rw [hk] at hsome
      simp at hsome
    constructor
    · have hold : s.chegadas.map s'.outcome = s.chegadas.map s.outcome := by
        refine List.map_congr_left fun j hj => ?_
        have hjk : j ≠ k := fun hjk => hnew (hjk ▸ hj)
        rw [ho, Function.update_of_ne hjk]
      rw [hc, he, List.map_append, List.map_append, hold, hs.emitidos]
      simp [ho]
    · intro j hj
      rw [hc, List.mem_append, List.mem_singleton]
      by_cases hjk : j = k
      · exact Or.inr hjk
      · rw [ho, Function.update_of_ne hjk] at hj
        exact Or.inl (hs.chegadas j hj)

/-- Every run keeps the events the outcomes of the answered calls. -/
lemma inv_run {s : Bloc} {passos : List BlocPasso} (h : StepRun.run step inicio passos = some s) :
    s.Inv :=
  StepRun.run_invariant_of_step (fun _ _ _ hI hstep => Inv.step hI hstep)
    ⟨rfl, fun k hk => by simp [outcome, inicio] at hk⟩ h

end Bloc

/-- **The response that arrives last is shown.**  When any number of overlapping calls are over,
the last event of the stream is the outcome of the call whose response arrived last; it is that of
the call that started last whenever the response of this one arrives last. -/
theorem ultimo_emitido (passos : List BlocPasso) (s : Bloc)
    (hrun : StepRun.run Bloc.step Bloc.inicio passos = some s) (hfim : s.Acabou)
    (hne : s.chamadas ≠ []) :
    ∃ k, s.chegadas.getLast? = some k ∧ s.emitidos.getLast? = s.outcome k ∧
      (k = s.chamadas.length - 1 → s.UltimaIniciadaVence) := by
  have hinv : s.Inv := Bloc.inv_run hrun
  have hzero : 0 ∈ s.chegadas := hinv.chegadas 0 (hfim 0 (List.length_pos_iff.mpr hne))
  obtain ⟨k, hk⟩ : ∃ k, s.chegadas.getLast? = some k :=
    ⟨_, List.getLast?_eq_some_getLast (List.ne_nil_of_mem hzero)⟩
  have hlast : s.emitidos.getLast? = s.outcome k := by
    have hmap := congrArg List.getLast? hinv.emitidos
    rw [List.getLast?_map, List.getLast?_map, hk] at hmap
    cases hem : s.emitidos.getLast? with
    | none => simp [hem] at hmap
    | some event => simpa [hem] using hmap
  exact ⟨k, hk, hlast, fun hk' => hlast.trans (by rw [hk'])⟩

/-- Two calls answered in the order in which they started. -/
theorem ultimo_emitido_two :
    let passos : List BlocPasso := [.iniciar, .iniciar, .rede 0, .rede 1,
      .resposta 0 (.ok []), .resposta 1 (.ok [{}])]
    let s : Bloc := ⟨[.fim (.ok []), .fim (.ok [{}])], [0, 1], [.ok [], .ok [{}]]⟩
    StepRun.run Bloc.step Bloc.inicio passos = some s ∧
      ∃ k, s.chegadas.getLast? = some k ∧ s.emitidos.getLast? = s.outcome k ∧
        (k = s.chamadas.length - 1 → s.UltimaIniciadaVence) := by
  intro passos s
  have hrun : StepRun.run Bloc.step Bloc.inicio passos = some s := rfl
  have hfim : s.Acabou := fun k hk =>
    match k, hk with
    | 0, _ => rfl
    | 1, _ => rfl
  exact ⟨hrun, ultimo_emitido passos s hrun hfim (by simp [s])⟩

/-- Two calls answered in the opposite order: the list of the first one is shown at the end. -/
theorem ultimo_emitido_late :
    let passos : List BlocPasso := [.iniciar, .iniciar, .rede 0, .rede 1,
      .resposta 1 (.ok [{}]), .resposta 0 (.ok [])]
    let s : Bloc := ⟨[.fim (.ok []), .fim (.ok [{}])], [1, 0], [.ok [{}], .ok []]⟩
    StepRun.run Bloc.step Bloc.inicio passos = some s ∧ s.Acabou ∧ ¬ s.UltimaIniciadaVence := by
  intro passos s
  have hfim : s.Acabou := fun k hk =>
    match k, hk with
    | 0, _ => rfl
    | 1, _ => rfl
  refine ⟨rfl, hfim, fun hvence => ?_⟩
  have hlists : (some (.ok []) : Option (Except DartError (List Carro))) = some (.ok [{}]) := hvence
  simp at hlists

end Carros
