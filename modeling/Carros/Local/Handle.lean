import Carros.Base.StepRun

/-!
# The database handle

The getter `db` of the class `DatabaseHelper` of `utils/sql/db_helper.dart`, its `_initDb` and its
`close`, for any number of overlapping callers.  Every `await` is a place where other code may run,
so a call is a list of steps: the answer of `getDatabasesPath`, the answer of `openDatabase`, the
assignment of `_db` when the getter goes on, and for `close` the end of the close of the handle.
`_db` is static; through which object a call is made plays no part.

A handle is what `openDatabase` answers with: one that is open, be it new or not.

`Ciclo` is what the cached handle is for.  `ciclo_iff` proves when a run keeps to it, however its
pending calls are completed: when no two first calls overlap and nothing is called after a close.
-/

namespace Carros

/-- A handle, by its number. -/
abbrev Handle := ℕ

namespace DatabaseHelper

/-- What a call waits for. -/
inductive Await where
  | getDatabasesPath
  | openDatabase
  /-- `_initDb` has returned, and the getter has not gone on. -/
  | initDb (db : Handle)
  /-- `close` is closing the handle. -/
  | dbClient (db : Handle)
  deriving DecidableEq, Repr

/-- A call under way: a read of `db` or a `close`, how many closes had been completed when it
started, and what it waits for. -/
structure Call where
  close : Bool
  start : ℕ
  await : Await
  deriving DecidableEq, Repr

/-- A read that has returned: how many closes had been completed when it started and when it
returned, its handle, and whether this was open. -/
structure Read where
  start : ℕ
  finish : ℕ
  db : Handle
  isOpen : Bool
  deriving DecidableEq, Repr

end DatabaseHelper

open DatabaseHelper

/-- The static field `_db` and the calls under way, the handles that have been closed, and the
record of what happened: the calls of `openDatabase` since the last close was completed, the
completed closes, and the reads that have returned. -/
structure DatabaseHelper where
  db : Option Handle
  calls : List Call
  closed : List Handle
  opens : ℕ
  closes : ℕ
  reads : List Read
  deriving DecidableEq, Repr

namespace DatabaseHelper

/-- The start: nothing has been called. -/
def inicio : DatabaseHelper := ⟨none, [], [], 0, 0, []⟩

/-- What happens: a read of `db` or a `close` is started, or the call in place `k` goes on.  The
handle is the answer of `openDatabase`. -/
inductive Step where
  | db
  | close
  | getDatabasesPath (k : ℕ)
  | openDatabase (k : ℕ) (db : Handle)
  | initDb (k : ℕ)
  | dbClient (k : ℕ)

/-- The step starts a call. -/
def Step.Starts : Step → Prop
  | .db | .close => True
  | _ => False

/-- The getter returns a handle; a `close` goes on with it. -/
def giveBack (s : DatabaseHelper) (close : Bool) (start : ℕ) (db : Handle) : DatabaseHelper :=
  { s with
    calls := if close then s.calls ++ [⟨close, start, .dbClient db⟩] else s.calls
    reads := s.reads ++ [⟨start, s.closes, db, !s.closed.contains db⟩] }

/-- The getter up to its first `await`: it returns `_db` if there is one. -/
def get (s : DatabaseHelper) (close : Bool) : DatabaseHelper :=
  match s.db with
  | some db => s.giveBack close s.closes db
  | none => { s with calls := s.calls ++ [⟨close, s.closes, .getDatabasesPath⟩] }

/-- A step; `none` if it cannot happen. -/
def step (s : DatabaseHelper) : Step → Option DatabaseHelper
  | .db => some (s.get false)
  | .close => some (s.get true)
  | .getDatabasesPath k =>
    match s.calls[k]? with
    | some ⟨close, start, .getDatabasesPath⟩ =>
      some { s with calls := s.calls.set k ⟨close, start, .openDatabase⟩, opens := s.opens + 1 }
    | _ => none
  | .openDatabase k db =>
    match s.calls[k]? with
    | some ⟨close, start, .openDatabase⟩ =>
      if db ∈ s.closed then none
      else some { s with calls := s.calls.set k ⟨close, start, .initDb db⟩ }
    | _ => none
  | .initDb k =>
    match s.calls[k]? with
    | some ⟨close, start, .initDb db⟩ =>
      some ({ s with db := some db, calls := s.calls.eraseIdx k }.giveBack close start db)
    | _ => none
  | .dbClient k =>
    match s.calls[k]? with
    | some ⟨_, _, .dbClient db⟩ =>
      some { s with
        calls := s.calls.eraseIdx k
        closed := db :: s.closed
        opens := 0
        closes := s.closes + 1 }
    | _ => none

/-! ## The life cycle -/

/-- `openDatabase` has been called at most once since the last close, all reads that returned
between the same two closes got the same handle, and a read that started after a close got an open
one. -/
structure Ciclo (s : DatabaseHelper) : Prop where
  opens : s.opens ≤ 1
  same : ∀ r ∈ s.reads, ∀ r' ∈ s.reads, r.finish = r'.finish → r.db = r'.db
  isOpen : ∀ r ∈ s.reads, 0 < r.start → r.isOpen = true

/-- However the calls under way are completed, the life cycle is kept to. -/
def Seguro (s : DatabaseHelper) : Prop :=
  ∀ as s', (∀ a ∈ as, ¬ a.Starts) → StepRun.run step s as = some s' → s'.Ciclo

/-- A call is started only while no close has been completed, and while `_db` is `null` only if no
other call is under way. -/
def Admissivel (s : DatabaseHelper) (a : Step) : Prop :=
  a.Starts → s.closes = 0 ∧ (s.db = none → s.calls = [])

/-- The states of the runs of admissible steps: nothing has been called, the first call is waiting
for its handle, or `_db` is set once and for all. -/
inductive Inv : DatabaseHelper → Prop
  | inicio : Inv inicio
  | path (close : Bool) : Inv ⟨none, [⟨close, 0, .getDatabasesPath⟩], [], 0, 0, []⟩
  | opening (close : Bool) : Inv ⟨none, [⟨close, 0, .openDatabase⟩], [], 1, 0, []⟩
  | opened (close : Bool) (db : Handle) : Inv ⟨none, [⟨close, 0, .initDb db⟩], [], 1, 0, []⟩
  | cached {s : DatabaseHelper} (db : Handle) (hdb : s.db = some db) (hopens : s.opens ≤ 1)
      (hcalls : ∀ c ∈ s.calls, c.await = .dbClient db)
      (hreads : ∀ r ∈ s.reads, r.db = db ∧ r.start = 0)
      (hclosed : s.closes ≠ 0 → db ∈ s.closed) : Inv s

/-- What the call in place `k` does when it goes on. -/
inductive Continues (s : DatabaseHelper) (k : ℕ) : DatabaseHelper → Prop
  | getDatabasesPath {close : Bool} {start : ℕ}
      (hk : s.calls[k]? = some ⟨close, start, .getDatabasesPath⟩) :
      Continues s k
        { s with calls := s.calls.set k ⟨close, start, .openDatabase⟩, opens := s.opens + 1 }
  | openDatabase {close : Bool} {start : ℕ} {db : Handle}
      (hk : s.calls[k]? = some ⟨close, start, .openDatabase⟩) :
      Continues s k { s with calls := s.calls.set k ⟨close, start, .initDb db⟩ }
  | initDb {close : Bool} {start : ℕ} {db : Handle}
      (hk : s.calls[k]? = some ⟨close, start, .initDb db⟩) :
      Continues s k
        ({ s with db := some db, calls := s.calls.eraseIdx k }.giveBack close start db)
  | dbClient {close : Bool} {start : ℕ} {db : Handle}
      (hk : s.calls[k]? = some ⟨close, start, .dbClient db⟩) :
      Continues s k
        { s with
          calls := s.calls.eraseIdx k
          closed := db :: s.closed
          opens := 0
          closes := s.closes + 1 }

/-- A step starts a call, or a call goes on. -/
lemma step_cases {s s' : DatabaseHelper} {a : Step} (h : s.step a = some s') :
    (a.Starts ∧ ∃ close, s' = s.get close) ∨ ¬ a.Starts ∧ ∃ k, Continues s k s' := by
  cases a with
  | db => exact Or.inl ⟨trivial, false, (Option.some.inj h).symm⟩
  | close => exact Or.inl ⟨trivial, true, (Option.some.inj h).symm⟩
  | getDatabasesPath k =>
    rw [step] at h
    split at h
    · rename_i close start hk
      exact Or.inr ⟨id, k, Option.some.inj h ▸ .getDatabasesPath hk⟩
    · cases h
  | openDatabase k db =>
    rw [step] at h
    split at h
    · rename_i close start hk
      split_ifs at h
      exact Or.inr ⟨id, k, Option.some.inj h ▸ .openDatabase hk⟩
    · cases h
  | initDb k =>
    rw [step] at h
    split at h
    · rename_i close start db hk
      exact Or.inr ⟨id, k, Option.some.inj h ▸ .initDb hk⟩
    · cases h
  | dbClient k =>
    rw [step] at h
    split at h
    · rename_i close start db hk
      exact Or.inr ⟨id, k, Option.some.inj h ▸ .dbClient hk⟩
    · cases h

/-- The only call under way is in place 0. -/
lemma getElem_singleton_eq {c d : Call} {k : ℕ} (h : [c][k]? = some d) : k = 0 ∧ c = d := by
  cases k with
  | zero => exact ⟨rfl, Option.some.inj h⟩
  | succ k => cases h

/-! ## The invariant -/

/-- Returning the cached handle before any close. -/
lemma Inv.giveBack {s : DatabaseHelper} {db : Handle} (hdb : s.db = some db)
    (hopens : s.opens ≤ 1) (hcalls : ∀ c ∈ s.calls, c.await = .dbClient db)
    (hreads : ∀ r ∈ s.reads, r.db = db ∧ r.start = 0) (hcloses : s.closes = 0) (close : Bool) :
    Inv (s.giveBack close 0 db) := by
  refine .cached db hdb hopens ?_ ?_ fun h => absurd hcloses h
  · intro c hc
    cases close with
    | false => exact hcalls c hc
    | true =>
      rcases List.mem_append.mp (show c ∈ s.calls ++ [_] from hc) with hc | hc
      · exact hcalls c hc
      · rw [List.mem_singleton.mp hc]
  · intro r hr
    rcases List.mem_append.mp (show r ∈ s.reads ++ [_] from hr) with hr | hr
    · exact hreads r hr
    · rw [List.mem_singleton.mp hr]
      exact ⟨rfl, rfl⟩

/-- A call that is started where it may be keeps the invariant. -/
lemma Inv.get {s : DatabaseHelper} (h : Inv s) (hcloses : s.closes = 0)
    (hcalls : s.db = none → s.calls = []) (close : Bool) : Inv (s.get close) := by
  cases h with
  | inicio => exact .path close
  | path | opening | opened => exact absurd (hcalls rfl) (by simp)
  | cached db hdb hopens hcalls hreads =>
    rw [DatabaseHelper.get, hdb, hcloses]
    exact .giveBack hdb hopens hcalls hreads hcloses close

/-- A call that goes on keeps the invariant. -/
lemma Inv.continues {s s' : DatabaseHelper} {k : ℕ} (h : Inv s) (hs' : Continues s k s') :
    Inv s' := by
  cases h with
  | inicio => cases hs' <;> contradiction
  | path close =>
    cases hs' with
    | getDatabasesPath hk =>
      obtain ⟨rfl, hc⟩ := getElem_singleton_eq hk
      cases hc
      exact .opening close
    | openDatabase hk | initDb hk | dbClient hk => cases (getElem_singleton_eq hk).2
  | opening close =>
    cases hs' with
    | openDatabase hk =>
      obtain ⟨rfl, hc⟩ := getElem_singleton_eq hk
      cases hc
      exact .opened close _
    | getDatabasesPath hk | initDb hk | dbClient hk => cases (getElem_singleton_eq hk).2
  | opened close db =>
    cases hs' with
    | initDb hk =>
      obtain ⟨rfl, hc⟩ := getElem_singleton_eq hk
      cases hc
      exact .giveBack rfl le_rfl (by simp) (by simp) rfl close
    | getDatabasesPath hk | openDatabase hk | dbClient hk => cases (getElem_singleton_eq hk).2
  | cached db hdb hopens hcalls hreads =>
    cases hs' with
    | dbClient hk =>
      have hmem := List.mem_of_getElem? hk
      cases hcalls _ hmem
      exact .cached db hdb (Nat.zero_le 1) (fun c hc => hcalls c (List.mem_of_mem_eraseIdx hc))
        hreads fun _ => List.mem_cons_self
    | getDatabasesPath hk | openDatabase hk | initDb hk =>
      cases hcalls _ (List.mem_of_getElem? hk)

/-- An admissible step keeps the invariant. -/
lemma Inv.step {s s' : DatabaseHelper} {a : Step} (h : Inv s) (hok : Admissivel s a)
    (hs' : s.step a = some s') : Inv s' := by
  rcases step_cases hs' with ⟨hstarts, close, rfl⟩ | ⟨-, k, hcontinues⟩
  · obtain ⟨hcloses, hcalls⟩ := hok hstarts
    exact h.get hcloses hcalls close
  · exact h.continues hcontinues

/-- Before the first read has returned only the calls of `openDatabase` count. -/
lemma ciclo_of_reads_eq_nil {s : DatabaseHelper} (hopens : s.opens ≤ 1) (hreads : s.reads = []) :
    s.Ciclo := by
  refine ⟨hopens, ?_, ?_⟩ <;> simp [hreads]

/-- The invariant is within the life cycle. -/
lemma Inv.ciclo {s : DatabaseHelper} (h : Inv s) : s.Ciclo := by
  cases h with
  | inicio | path => exact ciclo_of_reads_eq_nil (Nat.zero_le 1) rfl
  | opening | opened => exact ciclo_of_reads_eq_nil le_rfl rfl
  | cached db hdb hopens hcalls hreads =>
    refine ⟨hopens, fun r hr r' hr' _ => ?_, fun r hr hstart => ?_⟩
    · rw [(hreads r hr).1, (hreads r' hr').1]
    · rw [(hreads r hr).2] at hstart
      exact absurd hstart (lt_irrefl 0)

/-- The calls under way cannot leave the invariant. -/
lemma Inv.seguro {s : DatabaseHelper} (h : Inv s) : s.Seguro := by
  intro as s' has hrun
  have hok : StepRun.RunMeets DatabaseHelper.step Admissivel s as :=
    StepRun.runMeets_of_forall (fun a ha s hstarts => absurd hstarts (has a ha)) s
  exact (StepRun.run_invariant (fun s a s' h hok => h.step hok) h hok hrun).ciclo

/-! ## What the condition is for -/

/-- A call started while the first call is waiting for its handle can have the database opened
twice; one started after a close gets a closed handle. -/
lemma Inv.not_seguro {s s' : DatabaseHelper} {a : Step} (h : Inv s) (hok : ¬ Admissivel s a)
    (hs' : s.step a = some s') : ¬ s'.Seguro := by
  rcases step_cases hs' with ⟨-, close, rfl⟩ | ⟨hstarts, -⟩
  · have hcall : ¬ (s.closes = 0 ∧ (s.db = none → s.calls = [])) := fun h => hok fun _ => h
    intro hseguro
    cases h with
    | inicio => exact hcall ⟨rfl, fun _ => rfl⟩
    | path =>
      have hopens : 2 ≤ 1 :=
        (hseguro [.getDatabasesPath 0, .getDatabasesPath 1] _ (by simp [Step.Starts]) rfl).opens
      exact absurd hopens (by decide)
    | opening | opened =>
      have hopens : 2 ≤ 1 := (hseguro [.getDatabasesPath 1] _ (by simp [Step.Starts]) rfl).opens
      exact absurd hopens (by decide)
    | cached db hdb hopens hcalls hreads hclosed =>
      have hcloses : s.closes ≠ 0 := fun h => hcall ⟨h, by simp [hdb]⟩
      have hread : (⟨s.closes, s.closes, db, false⟩ : Read) ∈ (s.get close).reads := by
        rw [DatabaseHelper.get, hdb]
        simp [DatabaseHelper.giveBack, hclosed hcloses]
      have hciclo := hseguro [] _ (by simp) rfl
      exact absurd (hciclo.isOpen _ hread (Nat.pos_of_ne_zero hcloses)) (by simp)
  · exact absurd (fun h => absurd h hstarts) hok

end DatabaseHelper

open DatabaseHelper in
/-- **The life cycle of the handle.**  In every run of reads and closes by any number of callers the
life cycle is kept to, in every state and however the calls under way there are completed, if and
only if no call is started after a completed close, and none while `_db` is `null` and another call
is under way. -/
theorem ciclo_iff {as : List Step} {s : DatabaseHelper}
    (hrun : StepRun.run step inicio as = some s) :
    (∀ pre post s', as = pre ++ post → StepRun.run step inicio pre = some s' → s'.Seguro) ↔
      StepRun.RunMeets step Admissivel inicio as := by
  refine StepRun.forall_good_iff (I := Inv) ?_ ?_ ?_ .inicio hrun
  · intro s h
    exact h.seguro
  · intro s a s' h hok hs'
    exact h.step hok hs'
  · intro s a s' h hok hs'
    exact h.not_seguro hok hs'

open DatabaseHelper in
/-- A read, a close, and both completed. -/
theorem ciclo_iff_um :
    let as : List Step := [.db, .getDatabasesPath 0, .openDatabase 0 0, .initDb 0, .close,
      .dbClient 0]
    (∀ pre post s', as = pre ++ post → StepRun.run step inicio pre = some s' → s'.Seguro) ↔
      StepRun.RunMeets step Admissivel inicio as := by
  intro as
  exact ciclo_iff (s := ⟨some 0, [], [0], 0, 1, [⟨0, 0, 0, true⟩, ⟨0, 0, 0, true⟩]⟩) rfl

open DatabaseHelper in
/-- A read after a completed close returns the closed handle, and two first reads that overlap open
the database twice. -/
theorem ciclo_fails :
    (∃ s, StepRun.run step inicio [.db, .getDatabasesPath 0, .openDatabase 0 0, .initDb 0, .close,
        .dbClient 0, .db] = some s ∧ ⟨1, 1, 0, false⟩ ∈ s.reads ∧ ¬ s.Ciclo) ∧
      ∃ s, StepRun.run step inicio [.db, .db, .getDatabasesPath 0, .getDatabasesPath 1] = some s ∧
        s.opens = 2 ∧ ¬ s.Ciclo := by
  refine ⟨⟨_, rfl, by decide, fun h => ?_⟩, ⟨_, rfl, rfl, fun h => ?_⟩⟩
  · have hopen := h.isOpen ⟨1, 1, 0, false⟩ (by decide) (by decide)
    cases hopen
  · exact absurd h.opens (by decide)

end Carros
