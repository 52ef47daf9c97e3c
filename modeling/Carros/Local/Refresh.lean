import Carros.Local.Cache

/-!
# Refreshing again and again

Runs of the online branch of `CarrosBloc.fetch` against a server that answers with the same list
each time, every run after the saves of the one before have completed.

The saved cars have been through `Carro.fromJson` and have no id, so none of them meets the row an
earlier run left for it: each save adds a row.  `linhas_atualizar_iff` counts the rows and concludes
that the table stays the same after the first run only if there is no second one or nothing to save.
-/

namespace Carros

open Dart Sql

variable {σ : Type}

/-- Every request for the tipo is answered with the list `L`: JSON objects of the cars `L`, whose
ids are distinct and not null. -/
structure ServeLista (transport : Transport σ) (stored : Option String) (tipo : String)
    (L : List Carro) : Prop where
  ids : ∀ c ∈ L, c.id ≠ none
  nodup : (L.map Carro.id).Nodup
  answer : ∀ w, ∃ status body, ∃ maps : List DynMap,
    (request transport stored .get (urlTipo tipo) none w).1 =
      .ok ⟨status, body⟩ ∧ jsonDecode body = some (.list (maps.map .map)) ∧
      maps.mapM Carro.fromMap = .ok L

namespace CarrosBloc

/-- One refresh: a run of `fetch` on wifi and its saves, which complete in the order `ordem` gives
them. -/
def atualizar (gen : RowIds) (transport : Transport σ) (stored : Option String) (tipo : String)
    (ordem : List Carro → List Carro) (s : Database × σ) : Except DartError (Database × σ) :=
  let (f, w') := fetch transport stored .wifi s.1 tipo s.2
  (completar gen s.1 (ordem f.saves)).map fun db => (db, w')

/-- Refreshing `n` times. -/
def atualizarVezes (gen : RowIds) (transport : Transport σ) (stored : Option String)
    (tipo : String) (ordem : ℕ → List Carro → List Carro) :
    ℕ → Database × σ → Except DartError (Database × σ)
  | 0, s => .ok s
  | n + 1, s => do
    let s' ← atualizarVezes gen transport stored tipo ordem n s
    atualizar gen transport stored tipo (ordem n) s'

/-- The table of the cars has `n` rows. -/
def TemLinhas (db : Database) (n : ℕ) : Prop :=
  ∃ t, db.lookup "carro" = some t ∧ t.columns = colunasCarro ∧ t.rows.keys.length = n

/-- A table has one number of rows. -/
lemma TemLinhas.unique {db : Database} {n n' : ℕ} (h : TemLinhas db n) (h' : TemLinhas db n') :
    n = n' := by
  obtain ⟨t, ht, -, hn⟩ := h
  obtain ⟨t', ht', -, hn'⟩ := h'
  obtain rfl := Option.some.inj (ht.symm.trans ht')
  exact hn.symm.trans hn'

/-- The rows are counted in the table of the cars only. -/
lemma TemLinhas.of_lookup_eq {db db' : Database} {n : ℕ} (h : TemLinhas db n)
    (heq : db'.lookup "carro" = db.lookup "carro") : TemLinhas db' n := by
  obtain ⟨t, ht, hcols, hn⟩ := h
  exact ⟨t, heq.trans ht, hcols, hn⟩

/-- Saving a car without an id adds a row. -/
lemma TemLinhas.save {db : Database} {n : ℕ} (h : TemLinhas db n) (gen : RowIds) {c : Carro}
    (hid : c.id = none) :
    ∃ i db', CarroDAO.save db gen c = .ok (i, db') ∧ TemLinhas db' (n + 1) := by
  obtain ⟨t, ht, hcols, hn⟩ := h
  have haccepts := BaseDAO.Fits.accepts_toMap CarroDAO.fits hcols c
  have hget : (Entity.toMap c).get "id" = .null := by
    rw [CarroDAO.fits.get_id, show CarroDAO.fits.idOf c = none from hid]
    rfl
  have htable : db.table CarroDAO.tableName = .ok t := Database.table_eq_ok ht
  have hfresh : gen.next t.rows.keys ∉ t.rows.keys := gen.next_notMem _
  refine ⟨gen.next t.rows.keys,
    db.insert "carro" (t.put (gen.next t.rows.keys) (Entity.toMap c)), ?_,
    _, AList.lookup_insert _, hcols, ?_⟩
  · simp only [BaseDAO.save, Database.insertOrReplace, htable, ok_bind, Table.insertOrReplace,
      haccepts, if_true, hget]
    rfl
  · rw [Table.put, AList.keys_insert, List.erase_of_not_mem hfresh, List.length_cons, hn]

/-- Saving cars without ids adds a row for each of them. -/
lemma TemLinhas.completar {db : Database} {n : ℕ} (h : TemLinhas db n) (gen : RowIds)
    {saves : List Carro} (hsaves : ∀ c ∈ saves, c.id = none) :
    ∃ db', CarrosBloc.completar gen db saves = .ok db' ∧ TemLinhas db' (n + saves.length) := by
  induction saves generalizing db n with
  | nil => exact ⟨db, rfl, h⟩
  | cons c saves ih =>
    obtain ⟨hid, hsaves⟩ := List.forall_mem_cons.mp hsaves
    obtain ⟨i, db₁, hsave, hlinhas⟩ := h.save gen hid
    obtain ⟨db', hrest, hlinhas'⟩ := ih hlinhas hsaves
    refine ⟨db', ?_, ?_⟩
    · rw [CarrosBloc.completar, List.foldlM_cons, hsave]
      exact hrest
    · rw [List.length_cons, Nat.add_comm saves.length 1, ← Nat.add_assoc]
      exact hlinhas'

/-- One refresh with the answer `L` adds a row for each car of `L`, and none is saved if `L` is
empty. -/
lemma TemLinhas.atualizar {transport : Transport σ} {stored : Option String} {tipo : String}
    {L : List Carro} (hL : ServeLista transport stored tipo L) (gen : RowIds)
    {ordem : List Carro → List Carro} (hordem : ∀ l, (ordem l).Perm l) {s : Database × σ} {n : ℕ}
    (h : TemLinhas s.1 n) :
    ∃ s', CarrosBloc.atualizar gen transport stored tipo ordem s = .ok s' ∧
      TemLinhas s'.1 (n + L.length) ∧ (L = [] → s'.1 = s.1) := by
  obtain ⟨status, body, maps, hanswer, hbody, hmaps⟩ := hL.answer s.2
  have hfetch := fetch_wifi_of_getCarros
    (CarrosApi.getCarros_of_answer hanswer hbody hmaps) s.1
  have hperm := hordem (L.map Carro.semId)
  have hsaves : ∀ c ∈ ordem (L.map Carro.semId), c.id = none := by
    intro c hc
    obtain ⟨d, -, rfl⟩ := List.mem_map.mp (hperm.subset hc)
    rfl
  obtain ⟨db', hcompletar, hlinhas⟩ := h.completar gen hsaves
  rw [hperm.length_eq, List.length_map] at hlinhas
  refine ⟨(db', (fetch transport stored .wifi s.1 tipo s.2).2), ?_, hlinhas, fun hempty => ?_⟩
  · simp only [CarrosBloc.atualizar, hfetch, hcompletar]
    rfl
  · have hnil : ordem (L.map Carro.semId) = [] := by
      rw [hempty] at hperm ⊢
      exact hperm.eq_nil
    rw [hnil] at hcompletar
    exact (Except.ok.inj hcompletar).symm

/-- Refreshing `n` times with the answer `L` adds `n` rows for each car of `L`. -/
lemma TemLinhas.atualizarVezes {transport : Transport σ} {stored : Option String} {tipo : String}
    {L : List Carro} (hL : ServeLista transport stored tipo L) (gen : RowIds)
    {ordem : ℕ → List Carro → List Carro} (hordem : ∀ k l, (ordem k l).Perm l) {s : Database × σ}
    {linhas : ℕ} (h : TemLinhas s.1 linhas) (n : ℕ) :
    ∃ s', CarrosBloc.atualizarVezes gen transport stored tipo ordem n s = .ok s' ∧
      TemLinhas s'.1 (linhas + n * L.length) ∧ (L = [] → s'.1 = s.1) := by
  induction n with
  | zero => exact ⟨s, rfl, by rwa [Nat.zero_mul, Nat.add_zero], fun _ => rfl⟩
  | succ n ih =>
    obtain ⟨s₁, hs₁, hlinhas₁, hempty₁⟩ := ih
    obtain ⟨s', hs', hlinhas', hempty'⟩ := hlinhas₁.atualizar hL gen (hordem n)
    refine ⟨s', ?_, ?_, fun hempty => (hempty' hempty).trans (hempty₁ hempty)⟩
    · rw [CarrosBloc.atualizarVezes, hs₁]
      exact hs'
    · rwa [Nat.succ_mul, ← Nat.add_assoc]

end CarrosBloc

/-- **Refreshing is not idempotent.**  After `n` refreshes with the same answer `L` the table has
`n` more rows for each car of `L`; it is the table that one refresh leaves exactly if there was no
second one or `L` is empty. -/
theorem linhas_atualizar_iff (gen : RowIds) {transport : Transport σ} {stored : Option String}
    {tipo : String} {L : List Carro} (hL : ServeLista transport stored tipo L)
    {ordem : ℕ → List Carro → List Carro} (hordem : ∀ k l, (ordem k l).Perm l) {s : Database × σ}
    {linhas : ℕ} (h : CarrosBloc.TemLinhas s.1 linhas) {n : ℕ} (hn : 1 ≤ n) :
    ∃ s₁ sₙ, CarrosBloc.atualizarVezes gen transport stored tipo ordem 1 s = .ok s₁ ∧
      CarrosBloc.atualizarVezes gen transport stored tipo ordem n s = .ok sₙ ∧
      CarrosBloc.TemLinhas sₙ.1 (linhas + n * L.length) ∧
      (sₙ.1.lookup "carro" = s₁.1.lookup "carro" ↔ n = 1 ∨ L = []) := by
  obtain ⟨s₁, hs₁, hlinhas₁, hempty₁⟩ := h.atualizarVezes hL gen hordem 1
  obtain ⟨sₙ, hsₙ, hlinhasₙ, hemptyₙ⟩ := h.atualizarVezes hL gen hordem n
  refine ⟨s₁, sₙ, hs₁, hsₙ, hlinhasₙ, ?_⟩
  constructor
  · intro heq
    have hcount : linhas + n * L.length = linhas + 1 * L.length :=
      hlinhasₙ.unique (hlinhas₁.of_lookup_eq heq)
    have hmul : n * L.length = 1 * L.length := Nat.add_left_cancel hcount
    rcases Nat.eq_zero_or_pos L.length with hzero | hpos
    · exact Or.inr (List.length_eq_zero_iff.mp hzero)
    · exact Or.inl (Nat.eq_of_mul_eq_mul_right hpos hmul)
  · rintro (rfl | hempty)
    · rw [Except.ok.inj (hsₙ.symm.trans hs₁)]
    · rw [hemptyₙ hempty, hempty₁ hempty]

/-- A server that sends the JSON objects of `L` serves the list `L`, if their ids fit into an
`int`. -/
lemma serveLista_enviarLista {stored : Option String} {hs : List (String × String)}
    (hh : headers stored = .ok hs) {tipo : String} {L : List Carro}
    (hint : ∀ c ∈ L, c.IdInt64) (hids : ∀ c ∈ L, c.id ≠ none) (hnodup : (L.map Carro.id).Nodup) :
    ServeLista (σ := σ) (enviarLista L) stored tipo L := by
  refine ⟨hids, hnodup, fun w => ⟨200, jsonEncode (.list (L.map fun c => .map c.toMap)),
    L.map Carro.toMap, answer_enviarLista hh hint w⟩⟩

/-- One car, fetched twice into the tables of `create.sql`. -/
theorem linhas_atualizar_duas :
    let fusca : Carro := { id := some 1, nome := some "Fusca", tipo := some "classicos" }
    let server : Transport Unit := enviarLista [fusca]
    let stored := some "\x7b\"roles\":[]\x7d"
    ∃ s₁ s₂,
      CarrosBloc.atualizarVezes .largest server stored "classicos" (fun _ l => l) 1
        (bancoCriado, ()) = .ok s₁ ∧
      CarrosBloc.atualizarVezes .largest server stored "classicos" (fun _ l => l) 2
        (bancoCriado, ()) = .ok s₂ ∧
      CarrosBloc.TemLinhas s₂.1 (0 + 2 * [fusca].length) ∧
      (s₂.1.lookup "carro" = s₁.1.lookup "carro" ↔ 2 = 1 ∨ [fusca] = []) := by
  intro fusca server stored
  obtain ⟨hs, hh⟩ := exists_headers_semRoles
  have hL : ServeLista server stored "classicos" [fusca] :=
    serveLista_enviarLista hh (by decide) (by simp [fusca]) (by simp)
  have h : CarrosBloc.TemLinhas bancoCriado 0 := ⟨⟨colunasCarro, ∅⟩, rfl, rfl, rfl⟩
  exact linhas_atualizar_iff .largest hL (fun _ _ => .refl _) h (by decide)

/-- The second refresh changes the table: it has one row after the first and two after the
second. -/
theorem linhas_atualizar_fails :
    let fusca : Carro := { id := some 1, nome := some "Fusca", tipo := some "classicos" }
    let server : Transport Unit := enviarLista [fusca]
    let stored := some "\x7b\"roles\":[]\x7d"
    ServeLista server stored "classicos" [fusca] ∧
      ∃ s₁ s₂,
        CarrosBloc.atualizarVezes .largest server stored "classicos" (fun _ l => l) 1
          (bancoCriado, ()) = .ok s₁ ∧
        CarrosBloc.atualizarVezes .largest server stored "classicos" (fun _ l => l) 2
          (bancoCriado, ()) = .ok s₂ ∧
        CarrosBloc.TemLinhas s₁.1 1 ∧ CarrosBloc.TemLinhas s₂.1 2 ∧
        s₂.1.lookup "carro" ≠ s₁.1.lookup "carro" := by
  intro fusca server stored
  obtain ⟨hs, hh⟩ := exists_headers_semRoles
  have hL : ServeLista server stored "classicos" [fusca] :=
    serveLista_enviarLista hh (by decide) (by simp [fusca]) (by simp)
  have h : CarrosBloc.TemLinhas (bancoCriado, ()).1 0 := ⟨⟨colunasCarro, ∅⟩, rfl, rfl, rfl⟩
  have hordem : ∀ (k : ℕ) (l : List Carro),
      ((fun _ l => l : ℕ → List Carro → List Carro) k l).Perm l := fun _ _ => .refl _
  obtain ⟨s₁, hs₁, hlinhas₁, -⟩ := h.atualizarVezes hL .largest hordem 1
  obtain ⟨s₂, hs₂, hlinhas₂, -⟩ := h.atualizarVezes hL .largest hordem 2
  refine ⟨hL, s₁, s₂, hs₁, hs₂, hlinhas₁, hlinhas₂, fun heq => ?_⟩
  have hcount := hlinhas₂.unique (hlinhas₁.of_lookup_eq heq)
  cases hcount

end Carros
