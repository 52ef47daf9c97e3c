import Carros.Base.StepRun
import Carros.Favoritos.FavoritoService

/-!
# Overlapping toggles of one car

Any number of calls of `favoritar2` for the same car, with their messages in flight: the read, its
answer, and the write that the call starts without waiting for it.  The server answers a read with
what exists then and applies a write when it arrives.

Nothing keeps the calls apart, so a write can find the document changed since the read it goes
back to.  `Nuvem.Inv` keeps the account: the calls that returned `true` against the documents that
appeared.  `overlapping_toggles` says exactly when no update is lost, and that none is as long as
every write finds the document as its read reported it.
-/

namespace Carros

open Dart

/-- A call of `favoritar2`: its read is under way, the server has answered it, the call has
returned and its write is under way, or the write has been applied.  The answer is kept. -/
inductive ChamadaFavorito where
  | leitura
  | resposta (existe : Bool)
  | escrita (existe : Bool)
  | fim (existe : Bool)
  deriving DecidableEq, Repr

namespace ChamadaFavorito

/-- What the call returned, once it has. -/
def retorno (c : Carro) : ChamadaFavorito → Option Bool
  | .leitura => none
  | .resposta _ => none
  | .escrita existe => some (FavoritoService.decidir existe c).1
  | .fim existe => some (FavoritoService.decidir existe c).1

end ChamadaFavorito

/-- What happens next: a call starts, or a message of call `k` arrives. -/
inductive Mensagem where
  | chamar
  | ler (k : ℕ)
  | responder (k : ℕ)
  | escrever (k : ℕ)
  deriving DecidableEq, Repr

/-- The document of the car with the calls about it, and an account of the writes applied so far:
how often the document appeared and disappeared, and how many writes found it already there or
already gone. -/
structure Nuvem where
  documento : Option DynMap
  chamadas : List ChamadaFavorito
  apareceu : ℕ
  sumiu : ℕ
  jaExistia : ℕ
  jaSumido : ℕ

namespace Nuvem

/-- The document, and no calls. -/
def inicio (documento : Option DynMap) : Nuvem := ⟨documento, [], 0, 0, 0, 0⟩

/-- The server applies a write. -/
def aplicar (s : Nuvem) : DocWrite → Nuvem
  | .setData data =>
    { s with
      documento := some data
      apareceu := if s.documento.isSome then s.apareceu else s.apareceu + 1
      jaExistia := if s.documento.isSome then s.jaExistia + 1 else s.jaExistia }
  | .delete =>
    { s with
      documento := none
      sumiu := if s.documento.isSome then s.sumiu + 1 else s.sumiu
      jaSumido := if s.documento.isSome then s.jaSumido else s.jaSumido + 1 }

/-- One step. -/
def step (c : Carro) (s : Nuvem) : Mensagem → Option Nuvem
  | .chamar => some { s with chamadas := s.chamadas ++ [.leitura] }
  | .ler k =>
    match s.chamadas[k]? with
    | some .leitura => some { s with chamadas := s.chamadas.set k (.resposta s.documento.isSome) }
    | _ => none
  | .responder k =>
    match s.chamadas[k]? with
    | some (.resposta existe) => some { s with chamadas := s.chamadas.set k (.escrita existe) }
    | _ => none
  | .escrever k =>
    match s.chamadas[k]? with
    | some (.escrita existe) =>
      some ({ s with chamadas := s.chamadas.set k (.fim existe) }.aplicar
        (FavoritoService.decidir existe c).2)
    | _ => none

/-- Every call has returned and its write has been applied. -/
def Entregue (s : Nuvem) : Prop := ∀ call ∈ s.chamadas, ∃ existe, call = .fim existe

/-- How many calls returned `true`. -/
def verdadeiros (c : Carro) (s : Nuvem) : ℕ :=
  s.chamadas.countP fun call => call.retorno c = some true

/-- No update is lost: the document exists if it existed at first and the number of calls is even,
or did not and it is odd, and as many calls returned `true` as the document appeared. -/
def SemPerda (c : Carro) (existia : Bool) (s : Nuvem) : Prop :=
  s.documento.isSome = (existia ^^ decide (s.chamadas.length % 2 = 1)) ∧
    s.verdadeiros c = s.apareceu

/-- The step applies a write to a document that exists just as the read of its call reported. -/
def ComoLido (s : Nuvem) : Mensagem → Prop
  | .escrever k => ∀ existe, s.chamadas[k]? = some (.escrita existe) → s.documento.isSome = existe
  | _ => True

/-! ## The account -/

/-- The account of a run from a document that existed or not: every applied `setData` made the
document appear or found it there, every applied `delete` made it disappear or found it gone. -/
structure Inv (existia : Bool) (s : Nuvem) : Prop where
  escritos : s.chamadas.count (.fim false) = s.apareceu + s.jaExistia
  apagados : s.chamadas.count (.fim true) = s.sumiu + s.jaSumido
  saldo : existia.toNat + s.apareceu = s.documento.isSome.toNat + s.sumiu

/-- Replacing a call that is not over by one that is not over does not change the number of calls
that are. -/
lemma count_fim_set {calls : List ChamadaFavorito} {k : ℕ} {a b : ChamadaFavorito} {existe : Bool}
    (hk : calls[k]? = some a) (ha : a ≠ .fim existe) (hb : b ≠ .fim existe) :
    (calls.set k b).count (.fim existe) = calls.count (.fim existe) := by
  obtain ⟨hlt, hget⟩ := List.getElem?_eq_some_iff.mp hk
  rw [List.count_set hlt, hget]
  simp [ha, hb]

/-- A call that is over now counts once more. -/
lemma count_fim_set_self {calls : List ChamadaFavorito} {k : ℕ} {a : ChamadaFavorito}
    {existe : Bool} (hk : calls[k]? = some a) (ha : a ≠ .fim existe) :
    (calls.set k (.fim existe)).count (.fim existe) = calls.count (.fim existe) + 1 := by
  obtain ⟨hlt, hget⟩ := List.getElem?_eq_some_iff.mp hk
  rw [List.count_set hlt, hget]
  simp [ha]

/-- Every step keeps the account. -/
lemma Inv.step {c : Carro} {existia : Bool} {s s' : Nuvem} (hs : s.Inv existia) {m : Mensagem}
    (h : Nuvem.step c s m = some s') : s'.Inv existia := by
  obtain ⟨hescritos, hapagados, hsaldo⟩ := hs
  cases m with
  | chamar =>
    obtain rfl := Option.some.inj h
    exact ⟨by simpa using hescritos, by simpa using hapagados, hsaldo⟩
  | ler k =>
    simp only [Nuvem.step] at h
    split at h
    · rename_i hk
      obtain rfl := Option.some.inj h
      exact ⟨(count_fim_set hk (by simp) (by simp)).trans hescritos,
        (count_fim_set hk (by simp) (by simp)).trans hapagados, hsaldo⟩
    · cases h
  | responder k =>
    simp only [Nuvem.step] at h
    split at h
    · rename_i existe hk
      obtain rfl := Option.some.inj h
      exact ⟨(count_fim_set hk (by simp) (by simp)).trans hescritos,
        (count_fim_set hk (by simp) (by simp)).trans hapagados, hsaldo⟩
    · cases h
  | escrever k =>
    simp only [Nuvem.step] at h
    split at h
    · rename_i existe hk
      obtain rfl := Option.some.inj h
      have hself : (s.chamadas.set k (.fim existe)).count (.fim existe) = _ :=
        count_fim_set_self hk (by simp)
      have hother : (s.chamadas.set k (.fim existe)).count (.fim !existe) = _ :=
        count_fim_set hk (by simp) (by simp)
      -- The write is the one its own answer calls for, and the document may have changed since.
      cases existe <;> cases hdoc : s.documento <;> rw [hdoc] at hsaldo <;>
        constructor <;> simp [aplicar, FavoritoService.decidir, hdoc] at * <;> omega
    · cases h

/-- Every run keeps the account. -/
lemma inv_run {c : Carro} {documento : Option DynMap} {ms : List Mensagem} {s : Nuvem}
    (h : StepRun.run (step c) (inicio documento) ms = some s) : s.Inv documento.isSome :=
  StepRun.run_invariant_of_step (fun _ _ _ hI hstep => Inv.step hI hstep)
    ⟨rfl, rfl, rfl⟩ h

/-- When everything is delivered, every call is one of the two kinds. -/
lemma Entregue.length_eq {s : Nuvem} (h : s.Entregue) :
    s.chamadas.length = s.chamadas.count (.fim false) + s.chamadas.count (.fim true) := by
  unfold Entregue at h
  generalize s.chamadas = calls at h
  induction calls with
  | nil => rfl
  | cons call calls ih =>
    obtain ⟨⟨existe, rfl⟩, hrest⟩ := List.forall_mem_cons.mp h
    have hlen := ih hrest
    cases existe <;> simp <;> omega

/-- The calls that returned `true` are those whose read found no document. -/
lemma Entregue.verdadeiros_eq {s : Nuvem} (h : s.Entregue) (c : Carro) :
    s.verdadeiros c = s.chamadas.count (.fim false) := by
  unfold Entregue at h
  unfold verdadeiros
  generalize s.chamadas = calls at h
  induction calls with
  | nil => rfl
  | cons call calls ih =>
    obtain ⟨⟨existe, rfl⟩, hrest⟩ := List.forall_mem_cons.mp h
    rw [List.countP_cons, List.count_cons, ih hrest]
    cases existe <;> simp [ChamadaFavorito.retorno, FavoritoService.decidir]

/-- A step in which a write finds the document as its read reported it wastes no write. -/
lemma ComoLido.step {c : Carro} {s s' : Nuvem} {m : Mensagem} (hm : s.ComoLido m)
    (h : Nuvem.step c s m = some s') : s'.jaExistia = s.jaExistia ∧ s'.jaSumido = s.jaSumido := by
  cases m with
  | chamar =>
    obtain rfl := Option.some.inj h
    exact ⟨rfl, rfl⟩
  | ler k =>
    simp only [Nuvem.step] at h
    split at h
    · obtain rfl := Option.some.inj h
      exact ⟨rfl, rfl⟩
    · cases h
  | responder k =>
    simp only [Nuvem.step] at h
    split at h
    · obtain rfl := Option.some.inj h
      exact ⟨rfl, rfl⟩
    · cases h
  | escrever k =>
    simp only [Nuvem.step] at h
    split at h
    · rename_i existe hk
      obtain rfl := Option.some.inj h
      have hdoc : s.documento.isSome = existe := hm existe hk
      cases existe <;> simp [aplicar, FavoritoService.decidir, hdoc]
    · cases h

end Nuvem

/-- **Overlapping toggles.**  Once all messages are delivered, no update is lost exactly when no
`setData` found the document already there and an even number of deletes found it already gone.
In particular none is lost when every write finds the document as the read of its call reported
it. -/
theorem overlapping_toggles (c : Carro) (documento : Option DynMap) (ms : List Mensagem) (s : Nuvem)
    (hrun : StepRun.run (Nuvem.step c) (Nuvem.inicio documento) ms = some s) (hfim : s.Entregue) :
    (s.SemPerda c documento.isSome ↔ s.jaExistia = 0 ∧ s.jaSumido % 2 = 0) ∧
      (StepRun.RunMeets (Nuvem.step c) Nuvem.ComoLido (Nuvem.inicio documento) ms →
        s.SemPerda c documento.isSome) := by
  have hinv := Nuvem.inv_run hrun
  have hiff : s.SemPerda c documento.isSome ↔ s.jaExistia = 0 ∧ s.jaSumido % 2 = 0 := by
    obtain ⟨hescritos, hapagados, hsaldo⟩ := hinv
    have hlen := hfim.length_eq
    rw [Nuvem.SemPerda, hfim.verdadeiros_eq, hlen]
    generalize documento.isSome = existia at hsaldo ⊢
    generalize s.documento.isSome = existe at hsaldo ⊢
    cases existia <;> cases existe <;> simp at hsaldo ⊢ <;> omega
  refine ⟨hiff, fun hmeets => hiff.mpr ?_⟩
  have hzero : s.jaExistia = 0 ∧ s.jaSumido = 0 := by
    refine StepRun.run_invariant (I := fun s => s.jaExistia = 0 ∧ s.jaSumido = 0)
      (fun s m s' hI hok hstep => ?_) ⟨rfl, rfl⟩ hmeets hrun
    obtain ⟨hexistia, hsumido⟩ := Nuvem.ComoLido.step hok hstep
    exact ⟨hexistia.trans hI.1, hsumido.trans hI.2⟩
  exact ⟨hzero.1, by rw [hzero.2]⟩

/-- Two calls, the second one started after the write of the first one was applied. -/
theorem overlapping_toggles_sequential :
    let ms : List Mensagem := [.chamar, .ler 0, .responder 0, .escrever 0,
      .chamar, .ler 1, .responder 1, .escrever 1]
    let s : Nuvem := ⟨none, [.fim false, .fim true], 1, 1, 0, 0⟩
    StepRun.run (Nuvem.step {}) (Nuvem.inicio none) ms = some s ∧ s.SemPerda {} false := by
  intro ms s
  have hrun : StepRun.run (Nuvem.step {}) (Nuvem.inicio none) ms = some s := rfl
  have hfim : s.Entregue := by simp [Nuvem.Entregue, s]
  exact ⟨hrun, (overlapping_toggles {} none ms s hrun hfim).1.mpr ⟨rfl, rfl⟩⟩

/-- Two calls that both read before either of them writes: both return `true`, and the document
stays. -/
theorem overlapping_toggles_lose :
    let ms : List Mensagem := [.chamar, .chamar, .ler 0, .ler 1, .responder 0, .responder 1,
      .escrever 0, .escrever 1]
    ∃ s, StepRun.run (Nuvem.step {}) (Nuvem.inicio none) ms = some s ∧ s.Entregue ∧
      ¬ s.SemPerda {} false := by
  intro ms
  refine ⟨⟨some (Carro.toMap {}), [.fim false, .fim false], 1, 0, 1, 0⟩, rfl, ?_, ?_⟩
  · simp [Nuvem.Entregue]
  · simp [Nuvem.SemPerda]

end Carros
