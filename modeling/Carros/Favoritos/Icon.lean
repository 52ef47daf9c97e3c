import Carros.Base.StepRun
import Carros.Favoritos.FavoritoService

/-!
# The favourite icon

The colour of the favourite button of a `CarroPage` against the document of its car.  `initState`
asks `isFavorito2` and assigns the answer to `color` without `setState`; `_onClickFavorito` assigns
what `favoritar2` returned in a `setState`, after which the next frame paints the page.  A tap comes
after the toggle before it has returned; the write of that toggle may still be under way.  The
writes of the app take effect in the order in which they were started, and a read sees the ones that
have taken effect and possibly some of the others.

`icone_iff` says what the page shows once nothing is pending: the existence the last toggle left,
unless the late answer of `initState` was painted with it, and grey if there was no toggle.
-/

namespace Carros

open Dart

/-- The document of a car after a write to it. -/
def DocWrite.documento : DocWrite → Option DynMap
  | .setData data => some data
  | .delete => none

/-- The document after some writes, oldest first. -/
def DocWrite.documentos (documento : Option DynMap) (writes : List DocWrite) : Option DynMap :=
  writes.foldl (fun _ write => write.documento) documento

/-- `Colors`, as far as the button goes. -/
inductive Cor where
  | grey
  | red
  deriving DecidableEq, Repr

/-- The colour of the button for an answer. -/
def cor (favorito : Bool) : Cor := if favorito then .red else .grey

/-- How far the read of `initState` has come: it was sent, it was served, the answer has arrived. -/
inductive LeituraInicial where
  | enviada
  | servida (b : Bool)
  | chegada (b : Bool)
  deriving DecidableEq, Repr

/-- How far the read of a toggle has come. -/
inductive Alternancia where
  | enviada
  | servida (b : Bool)
  deriving DecidableEq, Repr

/-- The document with the writes under way, the field `color`, the colour that was painted last,
whether a repaint is due, the read of `initState` and the toggle under way. -/
structure Icone where
  documento : Option DynMap
  writes : List DocWrite
  color : Cor
  pintada : Cor
  repintar : Bool
  inicial : LeituraInicial
  toque : Option Alternancia

/-- What happens: the server serves the read of `initState`, with `n` of the writes under way, and
its answer arrives; the button is tapped, the read of the toggle is served, the toggle returns and
the page sets its state; a write takes effect; a frame repaints the page. -/
inductive PassoIcone where
  | servir (n : ℕ)
  | chegar
  | tocar
  | ler (n : ℕ)
  | retornar
  | escrever
  | quadro
  deriving DecidableEq, Repr

namespace Icone

/-- The page is opened and painted for the first time. -/
def inicio (documento : Option DynMap) : Icone :=
  ⟨documento, [], .grey, .grey, false, .enviada, none⟩

/-- What a read finds that sees `n` of the writes under way. -/
def existe (s : Icone) (n : ℕ) : Bool := (DocWrite.documentos s.documento (s.writes.take n)).isSome

/-- The document once all writes under way have taken effect. -/
def final (s : Icone) : Option DynMap := DocWrite.documentos s.documento s.writes

/-- A step on the page of the car `c`; `none` if it cannot happen. -/
def step (c : Carro) (s : Icone) : PassoIcone → Option Icone
  | .servir n =>
    match s.inicial with
    | .enviada => some { s with inicial := .servida (s.existe n) }
    | _ => none
  | .chegar =>
    match s.inicial with
    | .servida b => some { s with inicial := .chegada b, color := cor b }
    | _ => none
  | .tocar =>
    match s.toque with
    | none => some { s with toque := some .enviada }
    | some _ => none
  | .ler n =>
    match s.toque with
    | some .enviada => some { s with toque := some (.servida (s.existe n)) }
    | _ => none
  | .retornar =>
    match s.toque with
    | some (.servida b) =>
      let (status, write) := FavoritoService.decidir b c
      some { s with
        toque := none
        writes := s.writes ++ [write]
        color := cor status
        repintar := true }
    | _ => none
  | .escrever =>
    match s.writes with
    | [] => none
    | write :: writes => some { s with documento := write.documento, writes }
  | .quadro => if s.repintar then some { s with pintada := s.color, repintar := false } else none

/-- Nothing is pending: the answer to the read of `initState` has arrived, no toggle and no write is
under way, and no repaint is due. -/
structure Quieto (s : Icone) : Prop where
  inicial : ∃ b, s.inicial = .chegada b
  toque : s.toque = none
  writes : s.writes = []
  repintar : s.repintar = false

/-- The button is red exactly if the document exists. -/
def Concorda (s : Icone) : Prop := s.pintada = .red ↔ s.documento.isSome = true

/-- The answer to the read of `initState` arrives before the first frame. -/
def ChegaAntes (as : List PassoIcone) : Prop :=
  ∃ pre post, as = pre ++ .chegar :: post ∧ .quadro ∉ pre

/-- If the button was never tapped, the document did not exist at the start; and if the answer to
the read of `initState` arrived after the last toggle had returned and before the frame that paints
it, it was what the document is now. -/
def Oportuna (documento : Option DynMap) (as : List PassoIcone) (s : Icone) : Prop :=
  (.retornar ∉ as → documento = none) ∧
    ∀ pre post, as = pre ++ .retornar :: post → .retornar ∉ post → ChegaAntes post →
      s.inicial = .chegada s.documento.isSome

/-! ## One step -/

variable {c : Carro} {s s' : Icone} {a : PassoIcone}

/-- What a step other than the return of a toggle does to the colours. -/
inductive Efeito (s : Icone) : PassoIcone → Icone → Prop
  | chegar {s' : Icone} {b : Bool} (hinicial : s.inicial = .servida b)
      (hinicial' : s'.inicial = .chegada b) (hcolor : s'.color = cor b)
      (hpintada : s'.pintada = s.pintada) (hrepintar : s'.repintar = s.repintar) :
      Efeito s .chegar s'
  | quadro {s' : Icone} (hinicial : s'.inicial = s.inicial) (hpintada : s'.pintada = s.color)
      (hantes : s.repintar = true) (hrepintar : s'.repintar = false) : Efeito s .quadro s'
  | outro {s' : Icone} {a : PassoIcone} (hchegar : a ≠ .chegar) (hquadro : a ≠ .quadro)
      (hinicial : ∀ b, s.inicial = .chegada b → s'.inicial = .chegada b)
      (hcolor : s'.color = s.color) (hpintada : s'.pintada = s.pintada)
      (hrepintar : s'.repintar = s.repintar) : Efeito s a s'

/-- The effect of a step other than the return of a toggle; it leaves alone what the document will
be. -/
lemma efeito_of_step (h : s.step c a = some s') (ha : a ≠ .retornar) :
    Efeito s a s' ∧ s'.final = s.final := by
  cases a with
  | retornar => exact absurd rfl ha
  | servir n =>
    rw [step] at h
    split at h
    · rename_i hinicial
      obtain rfl := Option.some.inj h
      refine ⟨.outro (by simp) (by simp) (fun b hb => ?_) rfl rfl rfl, rfl⟩
      rw [hinicial] at hb
      cases hb
    · cases h
  | chegar =>
    rw [step] at h
    split at h
    · rename_i b hinicial
      obtain rfl := Option.some.inj h
      exact ⟨.chegar hinicial rfl rfl rfl rfl, rfl⟩
    · cases h
  | tocar =>
    rw [step] at h
    split at h
    · obtain rfl := Option.some.inj h
      exact ⟨.outro (by simp) (by simp) (fun _ hb => hb) rfl rfl rfl, rfl⟩
    · cases h
  | ler n =>
    rw [step] at h
    split at h
    · obtain rfl := Option.some.inj h
      exact ⟨.outro (by simp) (by simp) (fun _ hb => hb) rfl rfl rfl, rfl⟩
    · cases h
  | escrever =>
    rw [step] at h
    split at h
    · cases h
    · rename_i write writes hwrites
      obtain rfl := Option.some.inj h
      refine ⟨.outro (by simp) (by simp) (fun _ hb => hb) rfl rfl rfl, ?_⟩
      rw [final, final, hwrites]
      rfl
  | quadro =>
    rw [step] at h
    split_ifs at h with hrepintar
    obtain rfl := Option.some.inj h
    exact ⟨.quadro rfl rfl hrepintar rfl, rfl⟩

/-- When a toggle returns, a repaint is due, and `color` is that of the existence it leaves. -/
lemma step_retornar (h : s.step c .retornar = some s') :
    s'.repintar = true ∧ s'.color = cor s'.final.isSome := by
  rw [step] at h
  split at h
  · rename_i b htoque
    obtain rfl := Option.some.inj h
    refine ⟨rfl, ?_⟩
    rw [final, DocWrite.documentos, List.foldl_append]
    cases b <;> rfl
  · cases h

/-! ## Runs -/

variable {as : List PassoIcone}

/-- An answer that comes first comes before the first frame. -/
lemma chegaAntes_chegar (as : List PassoIcone) : ChegaAntes (.chegar :: as) :=
  ⟨[], as, rfl, by simp⟩

/-- No answer comes before a frame that comes first. -/
lemma not_chegaAntes_quadro (as : List PassoIcone) : ¬ ChegaAntes (.quadro :: as) := by
  rintro ⟨pre, post, h, hquadro⟩
  cases pre with
  | nil => cases h
  | cons a pre =>
    obtain ⟨rfl, -⟩ := List.cons.inj h
    exact hquadro List.mem_cons_self

/-- Any other first step does not matter. -/
lemma chegaAntes_cons (hchegar : a ≠ .chegar) (hquadro : a ≠ .quadro) :
    ChegaAntes (a :: as) ↔ ChegaAntes as := by
  constructor
  · rintro ⟨pre, post, h, hpre⟩
    cases pre with
    | nil => exact absurd (List.cons.inj h).1 hchegar
    | cons b pre =>
      obtain ⟨rfl, rfl⟩ := List.cons.inj h
      exact ⟨pre, post, rfl, fun h => hpre (List.mem_cons_of_mem _ h)⟩
  · rintro ⟨pre, post, rfl, hpre⟩
    exact ⟨a :: pre, post, rfl, by simpa [hquadro.symm] using hpre⟩

/-- What every effect keeps is kept by a run without the return of a toggle. -/
lemma invariant_of_run {I : Icone → Prop}
    (hstep : ∀ s a s', I s → Efeito s a s' → s'.final = s.final → I s') (hs : I s)
    (has : .retornar ∉ as) (hrun : StepRun.run (step c) s as = some s') : I s' := by
  have hmeets : StepRun.RunMeets (step c) (fun _ a => a ≠ .retornar) s as :=
    StepRun.runMeets_of_forall (fun _ ha _ => ne_of_mem_of_not_mem ha has) s
  refine StepRun.run_invariant (fun t a t' ht hne h => ?_) hs hmeets hrun
  obtain ⟨hefeito, hfinal⟩ := efeito_of_step h hne
  exact hstep t a t' ht hefeito hfinal

/-- What has arrived for `initState` stays. -/
lemma inicial_of_run {b : Bool} (hb : s.inicial = .chegada b) (has : .retornar ∉ as)
    (hrun : StepRun.run (step c) s as = some s') : s'.inicial = .chegada b := by
  refine invariant_of_run (I := fun t => t.inicial = .chegada b) ?_ hb has hrun
  intro t a t' ht hefeito _
  cases hefeito with
  | chegar hinicial =>
    rw [ht] at hinicial
    cases hinicial
  | quadro hinicial => rw [hinicial, ht]
  | outro _ _ hinicial => exact hinicial b ht

/-- Without the return of a toggle, what the document will be stays. -/
lemma final_of_run (has : .retornar ∉ as) (hrun : StepRun.run (step c) s as = some s') :
    s'.final = s.final :=
  invariant_of_run (I := fun t => t.final = s.final) (fun _ _ _ ht _ hfinal => hfinal.trans ht)
    rfl has hrun

/-- Without the return of a toggle and with no repaint due, the page is not painted again. -/
lemma pintada_of_run (hs : s.repintar = false) (has : .retornar ∉ as)
    (hrun : StepRun.run (step c) s as = some s') : s'.pintada = s.pintada := by
  refine (invariant_of_run (I := fun t => t.repintar = false ∧ t.pintada = s.pintada) ?_
    ⟨hs, rfl⟩ has hrun).2
  rintro t a t' ⟨hrepintar, hpintada⟩ hefeito -
  cases hefeito with
  | chegar _ _ _ hpintada' hrepintar' | outro _ _ _ _ hpintada' hrepintar' =>
    exact ⟨hrepintar'.trans hrepintar, hpintada'.trans hpintada⟩
  | quadro _ _ hantes =>
    rw [hrepintar] at hantes
    cases hantes

/-- Without the return of a toggle, a repaint that is due paints `color`, or the answer to
`initState` if that arrives before. -/
lemma pintada_of_run_repintar (hs : s.repintar = true) (has : .retornar ∉ as)
    (hrun : StepRun.run (step c) s as = some s') (hs' : s'.repintar = false) :
    (¬ ChegaAntes as ∧ s'.pintada = s.color) ∨
      ChegaAntes as ∧ ∃ b, s'.inicial = .chegada b ∧ s'.pintada = cor b := by
  induction as generalizing s with
  | nil =>
    obtain rfl := Option.some.inj hrun
    rw [hs] at hs'
    cases hs'
  | cons a as ih =>
    obtain ⟨s₁, ha, hrest⟩ := StepRun.run_cons_eq_some.mp hrun
    obtain ⟨hne, htail⟩ := not_or.mp (List.mem_cons.not.mp has)
    cases (efeito_of_step ha (Ne.symm hne)).1 with
    | chegar hinicial hinicial' hcolor hpintada hrepintar =>
      have hchegada := inicial_of_run hinicial' htail hrest
      refine Or.inr ⟨chegaAntes_chegar as, _, hchegada, ?_⟩
      rcases ih (hrepintar.trans hs) htail hrest with ⟨-, h⟩ | ⟨-, b, hb, h⟩
      · rw [h, hcolor]
      · -- The answer that arrives later is the one that has arrived.
        obtain rfl := LeituraInicial.chegada.inj (hchegada.symm.trans hb)
        exact h
    | quadro hinicial hpintada hantes hrepintar =>
      refine Or.inl ⟨not_chegaAntes_quadro as, ?_⟩
      exact (pintada_of_run hrepintar htail hrest).trans hpintada
    | outro hchegar hquadro hinicial hcolor hpintada hrepintar =>
      rw [chegaAntes_cons hchegar hquadro, ← hcolor]
      exact ih (hrepintar.trans hs) htail hrest

/-- With no write under way the document is what it will be. -/
lemma Quieto.documento (h : s.Quieto) : s.documento = s.final := by
  rw [final, h.writes]
  rfl

/-- The colours are told apart. -/
lemma cor_eq_red_iff (b : Bool) : cor b = .red ↔ b = true := by
  cases b <;> simp [cor]

/-- After the last toggle has returned: the page agrees with the document exactly if the answer to
`initState` was painted over only with the same. -/
lemma concorda_iff_of_retornar {documento : Option DynMap} {pre post : List PassoIcone}
    (hrun : StepRun.run (step c) (inicio documento) (pre ++ .retornar :: post) = some s)
    (hpost : .retornar ∉ post) (hs : s.Quieto) :
    s.Concorda ↔ (ChegaAntes post → s.inicial = .chegada s.documento.isSome) := by
  rw [StepRun.run_append] at hrun
  obtain ⟨s₁, -, hrun⟩ := Option.bind_eq_some_iff.mp hrun
  obtain ⟨s₂, hretornar, hrun⟩ := StepRun.run_cons_eq_some.mp hrun
  obtain ⟨hrepintar, hcolor⟩ := step_retornar hretornar
  have hdocumento : s.documento = s₂.final := hs.documento.trans (final_of_run hpost hrun)
  rw [← hdocumento] at hcolor
  rw [Concorda]
  rcases pintada_of_run_repintar hrepintar hpost hrun hs.repintar with
    ⟨hantes, hpintada⟩ | ⟨hantes, b, hb, hpintada⟩
  · rw [hpintada, hcolor, cor_eq_red_iff]
    exact iff_of_true Iff.rfl fun h => absurd h hantes
  · rw [hpintada, cor_eq_red_iff, hb]
    constructor
    · intro h _
      rw [LeituraInicial.chegada.injEq, Bool.eq_iff_iff]
      exact h
    · intro h
      rw [← LeituraInicial.chegada.inj (h hantes)]

/-- Without a toggle the page stays grey. -/
lemma concorda_iff_of_forall {documento : Option DynMap} (has : .retornar ∉ as)
    (hrun : StepRun.run (step c) (inicio documento) as = some s) (hs : s.Quieto) :
    s.Concorda ↔ documento = none := by
  have hpintada : s.pintada = .grey := pintada_of_run rfl has hrun
  have hdocumento : s.documento = documento := hs.documento.trans (final_of_run has hrun)
  rw [Concorda, hpintada, hdocumento]
  simp

/-- What occurs in a list occurs in it for the last time. -/
lemma exists_last {a : PassoIcone} (h : a ∈ as) :
    ∃ pre post, as = pre ++ a :: post ∧ a ∉ post := by
  obtain ⟨post, pre, hreverse, hpost⟩ :=
    List.eq_append_cons_of_mem (List.mem_reverse.mpr h)
  refine ⟨pre.reverse, post.reverse, ?_, by simpa using hpost⟩
  have has := congrArg List.reverse hreverse
  rw [List.reverse_reverse] at has
  rw [has]
  simp

end Icone

open Icone in
/-- **The favourite icon.**  In every run on the page of a car, whenever nothing is pending, the
button is red exactly if the document exists, if and only if the document did not exist at the start
in case there was no toggle, and the answer to `initState` that arrived between the return of the
last toggle and the frame that paints it, if there was one, is what the document is now. -/
theorem icone_iff {c : Carro} {documento : Option DynMap} {as : List PassoIcone} {s : Icone}
    (hrun : StepRun.run (step c) (inicio documento) as = some s) (hs : s.Quieto) :
    s.Concorda ↔ Oportuna documento as s := by
  constructor
  · intro h
    refine ⟨fun has => (concorda_iff_of_forall has hrun hs).mp h, ?_⟩
    rintro pre post rfl hpost
    exact (concorda_iff_of_retornar hrun hpost hs).mp h
  · rintro ⟨hnunca, hultimo⟩
    by_cases has : .retornar ∈ as
    · obtain ⟨pre, post, rfl, hpost⟩ := exists_last has
      exact (concorda_iff_of_retornar hrun hpost hs).mpr (hultimo pre post rfl hpost)
    · exact (concorda_iff_of_forall has hrun hs).mpr (hnunca has)

open Icone in
/-- One toggle, before the answer to `initState`. -/
theorem icone_iff_um :
    let fusca : Carro := { nome := some "Fusca" }
    let as : List PassoIcone := [.servir 0, .tocar, .ler 0, .retornar, .quadro, .escrever, .chegar]
    ∃ s, StepRun.run (step fusca) (inicio none) as = some s ∧
      (s.Concorda ↔ Oportuna none as s) := by
  intro fusca as
  refine ⟨_, rfl, icone_iff (c := fusca) rfl ?_⟩
  exact ⟨⟨false, rfl⟩, rfl, rfl, rfl⟩

open Icone in
/-- A document that exists: the answer to `initState` arrives, and the button stays grey.  And a
toggle that creates the document: the answer to `initState`, from before, arrives before the frame
and paints the button grey. -/
theorem icone_fails :
    let fusca : Carro := { nome := some "Fusca" }
    (∃ s, StepRun.run (step fusca) (inicio (some fusca.toMap)) [.servir 0, .chegar] = some s ∧
      s.Quieto ∧ s.pintada = .grey ∧ s.documento.isSome = true ∧ ¬ s.Concorda) ∧
    ∃ s, StepRun.run (step fusca) (inicio none)
        [.servir 0, .tocar, .ler 0, .retornar, .chegar, .quadro, .escrever] = some s ∧
      s.Quieto ∧ s.pintada = .grey ∧ s.documento.isSome = true ∧ ¬ s.Concorda := by
  intro fusca
  refine ⟨⟨_, rfl, ⟨⟨true, rfl⟩, rfl, rfl, rfl⟩, rfl, rfl, fun h => ?_⟩,
    ⟨_, rfl, ⟨⟨false, rfl⟩, rfl, rfl, rfl⟩, rfl, rfl, fun h => ?_⟩⟩
  · cases h.mpr rfl
  · cases h.mpr rfl

end Carros
