import Carros.Navigation.HomeTabs

/-!
# The home pages remember their tab

The simulation between the home pages over the preferences (`Abas`) and what they are for
(`Lembranca`).  The relation `Abas.Refina` ties the tab remembered to what the register of `tabIdx`
settles on, and the tab a page waits for to what its pending read will be answered with, so that
neither the order in which reads and writes take effect nor what other pages do in between matters.

`Abas.abas_refinam` is the refinement.  `Abas.sessao_sobre_abas` says that the session, which lies
in the same preferences, does not notice the tabs.
-/

namespace Carros

open Dart

/-- The call of the session in a step. -/
def AbasPasso.chamada : AbasPasso → Option SessionCall
  | .sessao c => some c
  | _ => none

/-- The page shows the tab, or it waits. -/
def HomeAba.Corresponde (home : HomeAba) : HomeLembrada → Prop
  | .pronta aba => home.ouvindo = true ∧ home.index = aba
  | .restaurando _ => home.ouvindo = false

namespace Abas

/-- The register of the tab. -/
def registro (s : Abas) : PendingRegister Valor LeitorPrefs := s.prefs.register chaveAba

/-- The pages over the preferences are in the state that the memory says. -/
structure Refina (s : Abas) (m : Lembranca) : Prop where
  tamanho : m.homes.length = s.homes.length
  homes : ∀ h : ℕ, Option.Rel HomeAba.Corresponde s.homes[h]? m.homes[h]?
  ultima : abaDe s.registro.settled = .ok m.ultima
  leitores : s.registro.readers.Nodup
  leituras : s.registro.Answers fun who v _ =>
    ∃ h a, who = .home h ∧ m.homes[h]? = some (.restaurando a) ∧ abaDe v = .ok a
  valor : ∃ a ∈ m.passadas, abaDe s.registro.value = .ok a
  escritas : ∀ v, .write v ∈ s.registro.queue → ∃ a ∈ m.passadas, abaDe (some v) = .ok a
  chaves : ∀ key h, ⟨key, .read (.home h)⟩ ∈ s.prefs.queue → key = chaveAba
  falhas : s.falhas = 0

variable {s : Abas} {m : Lembranca}

/-- The number of a tab is read as the tab. -/
lemma abaDe_int (i : Fin 4) : abaDe (some (.int i.val)) = .ok i := by
  have hrange : (0 : Int) ≤ i.val ∧ (i.val : Int) < 4 := ⟨Int.natCast_nonneg _, by omega⟩
  simp only [abaDe, Prefs.getInt, ok_bind, dif_pos hrange, Int.toNat_natCast]

/-- The beginning. -/
lemma refina_inicio : inicio.Refina Lembranca.inicio where
  tamanho := rfl
  homes h := by simp [inicio, Lembranca.inicio]
  ultima := rfl
  leitores := List.nodup_nil
  leituras := trivial
  valor := ⟨0, List.mem_singleton_self 0, rfl⟩
  escritas v hv := absurd hv List.not_mem_nil
  chaves key h hmem := absurd hmem List.not_mem_nil
  falhas := rfl

/-- A page and its tab. -/
lemma Refina.home (hR : s.Refina m) {h : ℕ} {home : HomeAba} (hh : s.homes[h]? = some home) :
    ∃ lembrada, m.homes[h]? = some lembrada ∧ home.Corresponde lembrada := by
  have hrel := hR.homes h
  rw [hh] at hrel
  generalize m.homes[h]? = o at hrel
  cases hrel with
  | some hcorresponde => exact ⟨_, rfl, hcorresponde⟩

/-- A page and its tab may change together. -/
lemma rel_set {homes : List HomeAba} {lembradas : List HomeLembrada}
    (htamanho : lembradas.length = homes.length)
    (hrel : ∀ h : ℕ, Option.Rel HomeAba.Corresponde homes[h]? lembradas[h]?) (h : ℕ)
    {home : HomeAba} {lembrada : HomeLembrada} (hcorresponde : home.Corresponde lembrada) (j : ℕ) :
    Option.Rel HomeAba.Corresponde (homes.set h home)[j]? (lembradas.set h lembrada)[j]? := by
  by_cases hj : h = j
  · subst hj
    by_cases hlt : h < homes.length
    · rw [List.getElem?_set_self hlt, List.getElem?_set_self (htamanho ▸ hlt)]
      exact .some hcorresponde
    · rw [List.getElem?_eq_none (by simpa using hlt), List.getElem?_eq_none]
      · exact .none
      · simpa [htamanho] using hlt
  · rw [List.getElem?_set_ne hj, List.getElem?_set_ne hj]
    exact hrel j

/-- A page may change as long as it corresponds to the same tab. -/
lemma Refina.set_home (hR : s.Refina m) {h : ℕ} {home : HomeAba} {lembrada : HomeLembrada}
    (hm : m.homes[h]? = some lembrada) (hcorresponde : home.Corresponde lembrada) :
    Refina { s with homes := s.homes.set h home } m := by
  have hset : m.homes.set h lembrada = m.homes := by
    obtain ⟨hlt, rfl⟩ := List.getElem?_eq_some_iff.mp hm
    exact List.set_getElem_self hlt
  refine { hR with tamanho := by rw [List.length_set]; exact hR.tamanho, homes := fun j => ?_ }
  have hrel := rel_set hR.tamanho hR.homes h hcorresponde j
  rwa [hset] at hrel

/-- A page that is ready may store a tab, which is then the one remembered. -/
lemma Refina.lembrar (hR : s.Refina m) (i : Fin 4) :
    Refina { s with prefs := Prefs.setInt s.prefs chaveAba i.val } (m.lembrar i) := by
  have hregistro : registro { s with prefs := Prefs.setInt s.prefs chaveAba i.val } =
      s.registro.issue (.write (.int i.val)) := PendingStore.register_issue _ _ _
  have hpassadas : ∀ a ∈ m.passadas, a ∈ (m.lembrar i).passadas := fun a ha =>
    List.mem_append_left _ ha
  refine ⟨hR.tamanho, hR.homes, ?_, ?_, ?_, ?_, ?_, ?_, hR.falhas⟩
  · rw [hregistro, PendingRegister.settled_issue_write]
    exact abaDe_int i
  · rw [hregistro, PendingRegister.readers_issue_write]
    exact hR.leitores
  · rw [hregistro]
    exact hR.leituras.issue_write fun who u hP => hP
  · obtain ⟨a, ha, hvalor⟩ := hR.valor
    rw [hregistro]
    exact ⟨a, hpassadas a ha, hvalor⟩
  · intro v hv
    rw [hregistro] at hv
    rcases List.mem_append.mp hv with hv | hv
    · obtain ⟨a, ha, hvalor⟩ := hR.escritas v hv
      exact ⟨a, hpassadas a ha, hvalor⟩
    · obtain rfl := RegisterOp.write.inj (List.mem_singleton.mp hv)
      exact ⟨i, List.mem_append_right _ (List.mem_singleton_self i), abaDe_int i⟩
  · intro key h hmem
    rcases List.mem_append.mp hmem with hmem | hmem
    · exact hR.chaves key h hmem
    · cases List.mem_singleton.mp hmem

/-- A page opens on the tab that is remembered. -/
lemma Refina.abrir (hR : s.Refina m) :
    Refina { s with
        prefs := s.prefs.issue chaveAba (.read (.home s.homes.length))
        homes := s.homes ++ [⟨0, false, true⟩] }
      { m with homes := m.homes ++ [.restaurando m.ultima] } := by
  have hregistro : registro { s with
      prefs := s.prefs.issue chaveAba (.read (.home s.homes.length))
      homes := s.homes ++ [⟨0, false, true⟩] } = s.registro.issue (.read (.home s.homes.length)) :=
    PendingStore.register_issue _ _ _
  -- The pages that wait are among those that were there before.
  have hantes : ∀ h a, m.homes[h]? = some (.restaurando a) →
      h < s.homes.length ∧ (m.homes ++ [.restaurando m.ultima])[h]? = some (.restaurando a) := by
    intro h a ha
    have hlt := (List.getElem?_eq_some_iff.mp ha).1
    exact ⟨hR.tamanho ▸ hlt, (List.getElem?_append_left hlt).trans ha⟩
  refine ⟨?_, fun h => ?_, ?_, ?_, ?_, ?_, ?_, ?_, hR.falhas⟩
  · rw [List.length_append, List.length_append, hR.tamanho]
    rfl
  · rcases Nat.lt_trichotomy h s.homes.length with hlt | heq | hgt
    · rw [List.getElem?_append_left hlt, List.getElem?_append_left (hR.tamanho.symm ▸ hlt)]
      exact hR.homes h
    · subst heq
      have hm : (m.homes ++ [.restaurando m.ultima])[s.homes.length]? =
          some (.restaurando m.ultima) := by
        rw [← hR.tamanho]
        exact List.getElem?_concat_length
      rw [List.getElem?_concat_length, hm]
      exact .some rfl
    · have hlength := hR.tamanho
      rw [List.getElem?_eq_none (by rw [List.length_append, List.length_singleton]; omega),
        List.getElem?_eq_none (by rw [List.length_append, List.length_singleton]; omega)]
      exact .none
  · rw [hregistro, PendingRegister.settled_issue_read]
    exact hR.ultima
  · rw [hregistro, PendingRegister.readers_issue_read]
    refine List.nodup_append.mpr ⟨hR.leitores, List.nodup_singleton _, ?_⟩
    rintro who hwho who' hwho' rfl
    obtain rfl := List.mem_singleton.mp hwho'
    obtain ⟨v, w, h, a, hhome, ha, -⟩ := hR.leituras.of_mem_readers hwho
    obtain rfl := LeitorPrefs.home.inj hhome
    exact absurd (hantes _ a ha).1 (Nat.lt_irrefl _)
  · rw [hregistro]
    refine PendingRegister.Answers.issue_read (hR.leituras.imp ?_) ?_
    · rintro who - v w ⟨h, a, rfl, ha, hv⟩
      exact ⟨h, a, rfl, (hantes h a ha).2, hv⟩
    · refine ⟨_, m.ultima, rfl, ?_, hR.ultima⟩
      rw [← hR.tamanho]
      exact List.getElem?_concat_length
  · rw [hregistro]
    exact hR.valor
  · intro v hv
    rw [hregistro] at hv
    rcases List.mem_append.mp hv with hv | hv
    · exact hR.escritas v hv
    · cases List.mem_singleton.mp hv
  · intro key h hmem
    rcases List.mem_append.mp hmem with hmem | hmem
    · exact hR.chaves key h hmem
    · cases List.mem_singleton.mp hmem
      rfl

/-- What is pending may take effect. -/
lemma Refina.entregar (hR : s.Refina m) : Refina { s with prefs := s.prefs.deliver } m := by
  have hfila : ∀ o ∈ s.prefs.deliver.queue, o ∈ s.prefs.queue := by
    intro o ho
    unfold PendingStore.deliver at ho
    split at ho
    · exact ho
    · rename_i hq
      exact hq ▸ List.mem_cons_of_mem _ ho
    · rename_i hq
      exact hq ▸ List.mem_cons_of_mem _ ho
  have hregistro : registro { s with prefs := s.prefs.deliver } = s.registro.deliver ∨
      registro { s with prefs := s.prefs.deliver } = s.registro :=
    PendingStore.register_deliver s.prefs chaveAba
  refine ⟨hR.tamanho, hR.homes, ?_, ?_, PendingStore.answers_deliver hR.leituras, ?_, ?_,
    fun key h hmem => hR.chaves key h (hfila _ hmem), hR.falhas⟩
  · exact (congrArg abaDe (PendingStore.settled_register_deliver s.prefs chaveAba)).trans hR.ultima
  · rcases hregistro with heq | heq
    · rw [heq]
      exact hR.leitores.sublist (PendingRegister.readers_deliver_sublist _)
    · rw [heq]
      exact hR.leitores
  · rcases hregistro with heq | heq
    · rw [heq]
      exact PendingRegister.value_deliver (I := fun v => ∃ a ∈ m.passadas, abaDe v = .ok a)
        hR.valor hR.escritas
    · rw [heq]
      exact hR.valor
  · intro v hv
    rcases hregistro with heq | heq
    · rw [heq] at hv
      exact hR.escritas v (PendingRegister.mem_queue_of_deliver hv)
    · rw [heq] at hv
      exact hR.escritas v hv

/-- A page that waits for no read may be ready. -/
lemma Refina.set_pronta (hR : s.Refina m) {h : ℕ} {home : HomeAba} (houvindo : home.ouvindo = true)
    (hleu : .home h ∉ s.registro.readers) :
    Refina { s with homes := s.homes.set h home }
      { m with homes := m.homes.set h (.pronta home.index) } := by
  have hcorresponde : home.Corresponde (.pronta home.index) := ⟨houvindo, rfl⟩
  refine { hR with
    tamanho := by rw [List.length_set, List.length_set, hR.tamanho]
    homes := rel_set hR.tamanho hR.homes h hcorresponde
    leituras := hR.leituras.imp ?_ }
  rintro who hwho v w ⟨h', a', rfl, ha', hv⟩
  refine ⟨h', a', rfl, ?_, hv⟩
  have hne : h ≠ h' := by
    rintro rfl
    exact hleu hwho
  exact (List.getElem?_set_ne hne).trans ha'

/-- A page whose read is answered shows the tab it waited for. -/
lemma Refina.restaurar (hR : s.Refina m) {h : ℕ} {a : Fin 4}
    (hm : m.homes[h]? = some (.restaurando a)) (hleu : .home h ∉ s.registro.readers)
    {stored : Option Valor} (hstored : abaDe stored = .ok a) :
    Refina (s.restaurar h stored) { m with homes := m.homes.set h (.pronta a) } := by
  have hlt : h < s.homes.length := hR.tamanho ▸ (List.getElem?_eq_some_iff.mp hm).1
  have hrestaurar : s.restaurar h stored =
      { s with homes := s.homes.set h { s.homes[h] with index := a, ouvindo := true } } := by
    simp only [Abas.restaurar, List.getElem?_eq_getElem hlt, hstored]
  rw [hrestaurar]
  exact hR.set_pronta rfl hleu

/-- A page that is ready waits for no read. -/
lemma Refina.notMem_readers (hR : s.Refina m) {h : ℕ} {aba : Fin 4}
    (hm : m.homes[h]? = some (.pronta aba)) : .home h ∉ s.registro.readers := by
  intro hmem
  obtain ⟨v, w, h', a, hhome, ha, -⟩ := hR.leituras.of_mem_readers hmem
  obtain rfl := LeitorPrefs.home.inj hhome
  rw [hm] at ha
  cases ha

/-- What else happens to the preferences is not seen. -/
lemma Refina.of_registro (hR : s.Refina m) {prefs : SharedPreferences LeitorPrefs}
    (hregistro : prefs.register chaveAba = s.registro)
    (hchaves : ∀ key h, ⟨key, .read (.home h)⟩ ∈ prefs.queue → key = chaveAba) :
    Refina { s with prefs := prefs } m := by
  have hsame : registro { s with prefs := prefs } = s.registro := hregistro
  refine ⟨hR.tamanho, hR.homes, ?_, ?_, ?_, ?_, ?_, hchaves, hR.falhas⟩
  · rw [hsame]
    exact hR.ultima
  · rw [hsame]
    exact hR.leitores
  · rw [hsame]
    exact hR.leituras
  · rw [hsame]
    exact hR.valor
  · rw [hsame]
    exact hR.escritas

/-- After a restart a tab is remembered that was remembered before. -/
lemma Refina.reiniciar (hR : s.Refina m) :
    ∃ a, a ∈ m.passadas ∧
      Refina { s with prefs := s.prefs.crash, homes := [] }
        { m with ultima := a, homes := [] } := by
  obtain ⟨a, ha, hvalor⟩ := hR.valor
  refine ⟨a, ha, rfl, fun h => .none, hvalor, List.nodup_nil, trivial, ⟨a, ha, hvalor⟩, ?_, ?_,
    hR.falhas⟩
  · exact fun v hv => absurd hv List.not_mem_nil
  · exact fun key h hmem => absurd hmem List.not_mem_nil

/-- A delivery: a page gets its tab, or nothing is seen. -/
lemma Refina.entregar_step (hR : s.Refina m) {s' : Abas} (ha : s.step .entregar = some s') :
    s'.Refina m ∨ ∃ h m', m.step (.restaurar h) = some m' ∧ s'.Refina m' := by
  cases hq : s.prefs.queue with
  | nil => simp [step, hq] at ha
  | cons o q =>
    obtain ⟨key, op⟩ := o
    simp only [step, hq] at ha
    split at ha
    · cases ‹_ = []›
    · rename_i key' h q' heq
      obtain ⟨hop, rfl⟩ := List.cons.inj heq
      obtain ⟨rfl, rfl⟩ := StoreOp.mk.inj hop
      obtain rfl := Option.some.inj ha
      obtain rfl : key = chaveAba := hR.chaves key h (hq ▸ List.mem_cons_self)
      -- The read that is answered now is the only one of its page.
      obtain ⟨h', a, hhome, hm, hvalor⟩ := PendingStore.answers_of_queue_eq hR.leituras hq
      obtain rfl := LeitorPrefs.home.inj hhome
      have hfila : s.registro.queue = .read (.home h) :: PendingStore.opsAt chaveAba q := by
        rw [registro, PendingStore.register, hq, PendingStore.opsAt_cons_self]
      have hleitores := hR.leitores
      rw [PendingRegister.readers_of_queue_eq hfila] at hleitores
      have hdeliver : registro { s with prefs := s.prefs.deliver } = s.registro.deliver :=
        PendingStore.register_deliver_of_key hq
      refine Or.inr ⟨h, _, ?_, hR.entregar.restaurar hm ?_ hvalor⟩
      · simp only [Lembranca.step, hm]
      · rw [hdeliver]
        exact (List.nodup_cons.mp hleitores).1
    · obtain rfl := Option.some.inj ha
      exact Or.inl hR.entregar

/-- A tab is chosen. -/
lemma Refina.escolher_step (hR : s.Refina m) {h : ℕ} {i : Fin 4} {s' : Abas}
    (ha : s.step (.escolher h i) = some s') :
    ∃ m', m.step (.escolher h i) = some m' ∧ s'.Refina m' := by
  cases hh : s.homes[h]? with
  | none => simp [step, hh] at ha
  | some home =>
    obtain ⟨lembrada, hm, hcorresponde⟩ := hR.home hh
    simp only [step, hh] at ha
    split_ifs at ha with haberta hi
    · obtain rfl := Option.some.inj ha
      cases lembrada with
      | pronta aba =>
        obtain ⟨-, rfl⟩ := hcorresponde
        exact ⟨m, by simp [Lembranca.step, hm, hi], hR⟩
      | restaurando aba => exact ⟨m, by simp [Lembranca.step, hm], hR⟩
    · obtain rfl := Option.some.inj ha
      cases lembrada with
      | pronta aba =>
        obtain ⟨houvindo, rfl⟩ := hcorresponde
        refine ⟨({ m with homes := m.homes.set h (.pronta i) } : Lembranca).lembrar i,
          by simp only [Lembranca.step, hm, if_neg hi], ?_⟩
        rw [notificar, if_pos houvindo]
        have hpronta : HomeAba.ouvindo { home with index := i } = true := houvindo
        exact (hR.set_pronta hpronta (hR.notMem_readers hm)).lembrar i
      | restaurando aba =>
        have houvindo : home.ouvindo = false := hcorresponde
        refine ⟨m, by simp only [Lembranca.step, hm], ?_⟩
        rw [notificar, if_neg (by simp [houvindo])]
        exact hR.set_home hm houvindo

/-- The animation to a tab ends. -/
lemma Refina.assentar_step (hR : s.Refina m) {h : ℕ} {s' : Abas}
    (ha : s.step (.assentar h) = some s') :
    ∃ m', m.step (.assentar h) = some m' ∧ s'.Refina m' := by
  obtain ⟨home, hh, rfl⟩ := Option.map_eq_some_iff.mp ha
  obtain ⟨lembrada, hm, hcorresponde⟩ := hR.home hh
  cases lembrada with
  | pronta aba =>
    obtain ⟨houvindo, rfl⟩ := hcorresponde
    refine ⟨m.lembrar home.index, by simp only [Lembranca.step, hm], ?_⟩
    rw [notificar, if_pos houvindo]
    exact hR.lembrar home.index
  | restaurando aba =>
    have houvindo : home.ouvindo = false := hcorresponde
    refine ⟨m, by simp only [Lembranca.step, hm], ?_⟩
    rw [notificar, if_neg (by simp [houvindo])]
    exact hR

/-- **Every step is a step of the memory, or not seen by it.** -/
theorem Refina.simula (hR : s.Refina m) {a : AbasPasso} {s' : Abas} (ha : s.step a = some s') :
    ∃ bs m', StepRun.run Lembranca.step m bs = some m' ∧
      bs.filterMap LembrancaPasso.acao = a.acao.toList ∧ s'.Refina m' := by
  have hum : ∀ {b m'}, m.step b = some m' → StepRun.run Lembranca.step m [b] = some m' :=
    fun hb => StepRun.run_cons_eq_some.mpr ⟨_, hb, rfl⟩
  cases a with
  | abrir =>
    obtain rfl := Option.some.inj ha
    exact ⟨[.abrir], _, hum rfl, rfl, hR.abrir⟩
  | escolher h i =>
    obtain ⟨m', hm', hR'⟩ := hR.escolher_step ha
    exact ⟨[.escolher h i], m', hum hm', rfl, hR'⟩
  | assentar h =>
    obtain ⟨m', hm', hR'⟩ := hR.assentar_step ha
    exact ⟨[.assentar h], m', hum hm', rfl, hR'⟩
  | fechar h =>
    obtain ⟨home, hh, rfl⟩ := Option.map_eq_some_iff.mp ha
    obtain ⟨lembrada, hm, hcorresponde⟩ := hR.home hh
    refine ⟨[], m, rfl, rfl, hR.set_home hm ?_⟩
    cases lembrada <;> exact hcorresponde
  | entregar =>
    rcases hR.entregar_step ha with hR' | ⟨h, m', hm', hR'⟩
    · exact ⟨[], m, rfl, rfl, hR'⟩
    · exact ⟨[.restaurar h], m', hum hm', rfl, hR'⟩
  | sessao c =>
    obtain rfl := Option.some.inj ha
    refine ⟨[], m, rfl, rfl, hR.of_registro ?_ fun key h hmem => ?_⟩
    · exact c.register_emit_of_ne s.prefs chaveAba_ne
    · exact hR.chaves key h (c.mem_queue_of_emit hmem)
  | lerSessao =>
    obtain rfl := Option.some.inj ha
    refine ⟨[], m, rfl, rfl, hR.of_registro ?_ fun key h hmem => ?_⟩
    · exact PendingStore.register_issue_of_ne (Ne.symm chaveAba_ne) _
    · rcases List.mem_append.mp hmem with hmem | hmem
      · exact hR.chaves key h hmem
      · cases List.mem_singleton.mp hmem
  | reiniciar =>
    obtain rfl := Option.some.inj ha
    obtain ⟨a, hmem, hR'⟩ := hR.reiniciar
    exact ⟨[.reiniciar a], _, hum (by simp [Lembranca.step, hmem]), rfl, hR'⟩

/-- **The home pages remember their tab.**  Every run of home pages over the preferences, with
sessions saved, cleared and read in between, is a run of the memory with the same actions of the
user.  In the end the tab that is remembered is the one the preferences settle on, every page that
is ready shows the tab the memory says, every page that is not will, and no restoring has failed. -/
theorem abas_refinam {as : List AbasPasso} {t : Abas} (hrun : StepRun.run step inicio as = some t) :
    ∃ bs m, StepRun.run Lembranca.step Lembranca.inicio bs = some m ∧
      bs.filterMap LembrancaPasso.acao = as.filterMap AbasPasso.acao ∧
      abaDe t.registro.settled = .ok m.ultima ∧
      (∀ (h : ℕ) (home : HomeAba), t.homes[h]? = some home →
        if home.ouvindo then m.homes[h]? = some (.pronta home.index)
        else ∃ aba, m.homes[h]? = some (.restaurando aba)) ∧
      t.falhas = 0 := by
  obtain ⟨bs, m, hbs, hacoes, hR⟩ :=
    StepRun.run_simulation (fun _ _ _ _ hR ha => hR.simula ha) refina_inicio hrun
  refine ⟨bs, m, hbs, hacoes, hR.ultima, fun h home hh => ?_, hR.falhas⟩
  obtain ⟨lembrada, hm, hcorresponde⟩ := hR.home hh
  cases lembrada with
  | pronta aba =>
    obtain ⟨houvindo, rfl⟩ := hcorresponde
    rw [if_pos houvindo]
    exact hm
  | restaurando aba =>
    have houvindo : home.ouvindo = false := hcorresponde
    rw [houvindo]
    exact ⟨aba, hm⟩

/-- A page opens and is left on another tab before the preferences answer, which is forgotten; the
tab chosen after that is the one the next page opens on, after a restart. -/
theorem abas_refinam_reaberta :
    ∃ t bs m, StepRun.run step inicio [.abrir, .escolher 0 2, .entregar, .escolher 0 3, .entregar,
        .reiniciar, .abrir, .entregar] = some t ∧
      StepRun.run Lembranca.step Lembranca.inicio bs = some m ∧
      bs.filterMap LembrancaPasso.acao =
        [.abrir, .escolher 0 2, .escolher 0 3, .reiniciar, .abrir] ∧
      m.homes[0]? = some (.pronta 3) := by
  obtain ⟨t, hrun, hhome⟩ : ∃ t, StepRun.run step inicio [.abrir, .escolher 0 2, .entregar,
      .escolher 0 3, .entregar, .reiniciar, .abrir, .entregar] = some t ∧
      t.homes[0]? = some ⟨3, true, true⟩ := ⟨_, rfl, rfl⟩
  obtain ⟨bs, m, hbs, hacoes, -, hhomes, -⟩ := abas_refinam hrun
  exact ⟨t, bs, m, hrun, hbs, hacoes, hhomes 0 _ hhome⟩

/-! ## The session next to it -/

/-- What the preferences settle on for the session, next to the register of the session alone. -/
lemma settled_usuario_step {s' : Abas} {a : AbasPasso} (ha : s.step a = some s')
    (hvivo : a ≠ .reiniciar) {p : Prefs LeitorPrefs}
    (hp : (s.prefs.register chaveUsuario).settled = p.settled.map .str) :
    (s'.prefs.register chaveUsuario).settled =
      (SessionEvent.steps p (a.chamada.toList.map .call)).settled.map .str := by
  have houtra : ∀ op, ((s.prefs.issue chaveAba op).register chaveUsuario).settled =
      p.settled.map .str := fun op => by
    rw [PendingStore.register_issue_of_ne chaveAba_ne, hp]
  have hentrega : (s.prefs.deliver.register chaveUsuario).settled = p.settled.map .str :=
    (PendingStore.settled_register_deliver _ _).trans hp
  have hnotifica : ∀ (s₁ : Abas) home, s₁.prefs = s.prefs →
      ((s₁.notificar home).prefs.register chaveUsuario).settled = p.settled.map .str := by
    intro s₁ home hprefs
    rw [notificar]
    split
    · exact hprefs ▸ houtra _
    · rw [hprefs, hp]
  cases a with
  | abrir =>
    obtain rfl := Option.some.inj ha
    exact houtra _
  | escolher h i =>
    cases hh : s.homes[h]? with
    | none => simp [step, hh] at ha
    | some home =>
      simp only [step, hh] at ha
      split_ifs at ha
      · obtain rfl := Option.some.inj ha
        exact hp
      · obtain rfl := Option.some.inj ha
        exact hnotifica _ _ rfl
  | assentar h =>
    obtain ⟨home, -, rfl⟩ := Option.map_eq_some_iff.mp ha
    exact hnotifica _ _ rfl
  | fechar h =>
    obtain ⟨home, -, rfl⟩ := Option.map_eq_some_iff.mp ha
    exact hp
  | entregar =>
    have hrestaura : ∀ h stored,
        (Abas.restaurar { s with prefs := s.prefs.deliver } h stored).prefs = s.prefs.deliver := by
      intro h stored
      unfold Abas.restaurar
      split <;> rfl
    simp only [step] at ha
    split at ha
    · cases ha
    · obtain rfl := Option.some.inj ha
      rw [hrestaura]
      exact hentrega
    · obtain rfl := Option.some.inj ha
      exact hentrega
  | sessao c =>
    obtain rfl := Option.some.inj ha
    exact c.settled_emit s.prefs p
  | lerSessao =>
    obtain rfl := Option.some.inj ha
    rw [PendingStore.register_issue, PendingRegister.settled_issue_read]
    exact hp
  | reiniciar => exact absurd rfl hvivo

/-- **The tabs leave the session alone.**  Whatever the home pages store and read in between, a
`Usuario.get` issued after a run without a restart completes with what it would complete with after
the calls of the run alone, on the register of `user.prefs` alone. -/
theorem sessao_sobre_abas {as : List AbasPasso} {s t : Abas} {p : Prefs LeitorPrefs}
    (hp : (s.prefs.register chaveUsuario).settled = p.settled.map .str)
    (hvivo : .reiniciar ∉ as) (hrun : StepRun.run step s as = some t) :
    Usuario.getPrefs (t.prefs.register chaveUsuario).settled =
      laterGet (SessionEvent.steps p ((as.filterMap AbasPasso.chamada).map .call)) := by
  have hsettled : (t.prefs.register chaveUsuario).settled =
      (SessionEvent.steps p ((as.filterMap AbasPasso.chamada).map .call)).settled.map .str := by
    induction as generalizing s p with
    | nil =>
      obtain rfl : s = t := by simpa using hrun
      exact hp
    | cons a as ih =>
      obtain ⟨s', ha, hrest⟩ := StepRun.run_cons_eq_some.mp hrun
      rw [List.mem_cons, not_or] at hvivo
      have hstep := settled_usuario_step ha (Ne.symm hvivo.1) hp
      rw [ih hstep hvivo.2 hrest, List.filterMap_cons]
      cases a.chamada <;> rfl
  rw [hsettled, Usuario.getPrefs_map_str, laterGet, PendingRegister.drain_eq]

/-- A page opens, stores a tab and the session is cleared, in this order: nobody is signed in. -/
theorem sessao_sobre_abas_clear :
    ∃ t, StepRun.run step inicio [.abrir, .entregar, .escolher 0 2, .sessao .clear] = some t ∧
      Usuario.getPrefs (t.prefs.register chaveUsuario).settled = .ok none := by
  obtain ⟨t, hrun⟩ : ∃ t, StepRun.run step inicio
      [.abrir, .entregar, .escolher 0 2, .sessao .clear] = some t := ⟨_, rfl⟩
  have hvivo : AbasPasso.reiniciar ∉
      [.abrir, .entregar, .escolher 0 2, .sessao .clear] := by simp
  exact ⟨t, hrun, sessao_sobre_abas (p := ⟨none, []⟩) rfl hvivo hrun⟩

end Abas

end Carros
