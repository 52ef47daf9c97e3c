import Mathlib.Data.List.AList

/-!
# Runs of a labelled step function

A system is given by a partial step function `step : σ → α → Option σ`: the state after a labelled
step, or `none` if the step cannot happen.  `run` executes a list of labels, and `RunMeets ok` says
that every step the run takes meets a condition on the state before it and the label.

The rule of invariants: what every admissible step preserves holds after every admissible run
(`run_invariant`).  Where a step keeps a property exactly when it is admissible, so does a run
(`run_iff` for the last state, `forall_good_iff` and `forall_prefix_iff` for all states).  What is
known of a state together with the steps so far holds along the run (`run_history`), and so does a
number that some labels may raise by one (`run_count`).  A relation that steps keep lets the runs of
one system be followed by runs of another (`run_simulation`).  What some labels set and others reset
holds after a run exactly if one that set it was not followed by one that resets it (`latch_iff`).
If labels bring work and others do some of it, no more is done than was brought (`run_budget`), and
where work that is left can always go on, it can be done to its end (`exists_run_rest`).
-/

namespace StepRun

variable {σ τ α : Type*}

/-- The state after a list of steps, `none` if one of them cannot happen. -/
def run (step : σ → α → Option σ) : σ → List α → Option σ
  | s, [] => some s
  | s, a :: as => (step s a).bind fun s' => run step s' as

/-- Every step the run takes meets the condition `ok`. -/
def RunMeets (step : σ → α → Option σ) (ok : σ → α → Prop) : σ → List α → Prop
  | _, [] => True
  | s, a :: as => ok s a ∧ ∀ s', step s a = some s' → RunMeets step ok s' as

/-- A run of no steps stays where it is. -/
@[simp] lemma run_nil (step : σ → α → Option σ) (s : σ) : run step s [] = some s := rfl

/-- A nonempty run takes its first step and goes on from there. -/
lemma run_cons (step : σ → α → Option σ) (s : σ) (a : α) (as : List α) :
    run step s (a :: as) = (step s a).bind fun s' => run step s' as := rfl

/-- A nonempty run that happens has a first step that happens. -/
lemma run_cons_eq_some {step : σ → α → Option σ} {s t : σ} {a : α} {as : List α} :
    run step s (a :: as) = some t ↔ ∃ s', step s a = some s' ∧ run step s' as = some t := by
  rw [run_cons, Option.bind_eq_some_iff]

/-- A run whose first step is known goes on from where it leads. -/
lemma run_cons_of_step {step : σ → α → Option σ} {s s' : σ} {a : α} (h : step s a = some s')
    (as : List α) : run step s (a :: as) = run step s' as := by
  rw [run_cons, h, Option.bind_some]

/-- Running a concatenation is running its parts one after the other. -/
lemma run_append (step : σ → α → Option σ) (s : σ) (as bs : List α) :
    run step s (as ++ bs) = (run step s as).bind fun s' => run step s' bs := by
  induction as generalizing s with
  | nil => rfl
  | cons a as ih =>
    rw [List.cons_append, run_cons, run_cons, Option.bind_assoc]
    congr 1
    funext s'
    exact ih s'

/-- **Invariant rule.**  What holds at the start and is preserved by every admissible step holds
after every admissible run. -/
theorem run_invariant {step : σ → α → Option σ} {ok : σ → α → Prop} {I : σ → Prop}
    (hstep : ∀ s a s', I s → ok s a → step s a = some s' → I s') {s t : σ} {as : List α}
    (hs : I s) (hok : RunMeets step ok s as) (hrun : run step s as = some t) : I t := by
  induction as generalizing s with
  | nil =>
    obtain rfl : s = t := by simpa using hrun
    exact hs
  | cons a as ih =>
    obtain ⟨s', hs', hrest⟩ := run_cons_eq_some.mp hrun
    exact ih (hstep s a s' hs hok.1 hs') (hok.2 s' hs') hrest

/-- The first steps of a run that meets a condition meet it. -/
lemma RunMeets.of_append {step : σ → α → Option σ} {ok : σ → α → Prop} {s : σ} {as bs : List α}
    (h : RunMeets step ok s (as ++ bs)) : RunMeets step ok s as := by
  induction as generalizing s with
  | nil => trivial
  | cons a as ih => exact ⟨h.1, fun s' hs' => ih (h.2 s' hs')⟩

/-- A run goes on meeting the condition if what follows meets it from where the run leads. -/
lemma RunMeets.append {step : σ → α → Option σ} {ok : σ → α → Prop} {s : σ} {as bs : List α}
    (h : RunMeets step ok s as) (hrest : ∀ t, run step s as = some t → RunMeets step ok t bs) :
    RunMeets step ok s (as ++ bs) := by
  induction as generalizing s with
  | nil => exact hrest s rfl
  | cons a as ih =>
    refine ⟨h.1, fun s' hs' => ih (h.2 s' hs') fun t ht => hrest t ?_⟩
    rw [run_cons_of_step hs', ht]

/-- A run that takes a known first step. -/
lemma runMeets_cons {step : σ → α → Option σ} {ok : σ → α → Prop} {s s' : σ} {a : α}
    {as : List α} (hok : ok s a) (hs' : step s a = some s') (hrest : RunMeets step ok s' as) :
    RunMeets step ok s (a :: as) := by
  refine ⟨hok, fun t ht => ?_⟩
  obtain rfl : s' = t := Option.some.inj (hs'.symm.trans ht)
  exact hrest

/-- A run of steps that meet a condition in every state meets it. -/
lemma runMeets_of_forall {step : σ → α → Option σ} {ok : σ → α → Prop} {as : List α}
    (h : ∀ a ∈ as, ∀ s, ok s a) (s : σ) : RunMeets step ok s as := by
  induction as generalizing s with
  | nil => trivial
  | cons a as ih =>
    obtain ⟨ha, has⟩ := List.forall_mem_cons.mp h
    exact ⟨ha s, fun s' _ => ih has s'⟩

/-- Every run meets the condition that always holds. -/
lemma runMeets_true (step : σ → α → Option σ) (s : σ) (as : List α) :
    RunMeets step (fun _ _ => True) s as :=
  runMeets_of_forall (fun _ _ _ => trivial) s

/-- The invariant rule without a condition on the steps. -/
theorem run_invariant_of_step {step : σ → α → Option σ} {I : σ → Prop}
    (hstep : ∀ s a s', I s → step s a = some s' → I s') {s t : σ} {as : List α}
    (hs : I s) (hrun : run step s as = some t) : I t :=
  run_invariant (fun s a s' hI _ h => hstep s a s' hI h) hs (runMeets_true step s as) hrun

/-- **History rule.**  What is known of a state and the steps so far, and after a step of the new
state and the steps with this one, is known after a run. -/
theorem run_history {step : σ → α → Option σ} {I : σ → List α → Prop}
    (hstep : ∀ s a s' before, I s before → step s a = some s' → I s' (before ++ [a])) {s t : σ}
    {as before : List α} (hs : I s before) (hrun : run step s as = some t) :
    I t (before ++ as) := by
  induction as generalizing s before with
  | nil =>
    obtain rfl : s = t := by simpa using hrun
    rwa [List.append_nil]
  | cons a as ih =>
    obtain ⟨s', hs', hrest⟩ := run_cons_eq_some.mp hrun
    have hnext := ih (hstep s a s' before hs hs') hrest
    rwa [List.append_assoc, List.singleton_append] at hnext

/-- **Counting rule.**  What is known of a state and a number, and after a step of the new state and
the number, one larger if the step counts, is known after a run of the number and its steps that
count. -/
theorem run_count {step : σ → α → Option σ} {p : α → Bool} {I : σ → ℕ → Prop}
    (hstep : ∀ s a s' n, I s n → step s a = some s' → I s' (n + if p a then 1 else 0)) {s t : σ}
    {as : List α} {n : ℕ} (hs : I s n) (hrun : run step s as = some t) :
    I t (n + as.countP p) := by
  have hnil : I s (n + ([] : List α).countP p) := hs
  refine run_history (I := fun s before => I s (n + before.countP p)) ?_ hnil hrun
  intro s a s' before h ha
  have hnext := hstep s a s' _ h ha
  rwa [List.countP_append, List.countP_singleton, ← Nat.add_assoc]

/-- **Simulation rule.**  Let every step of one system, from related states, be matched by a run of
another whose visible labels are those of the step.  Then every run of the one is matched by a run
of the other with the same visible labels. -/
theorem run_simulation {β γ : Type*} {step : σ → α → Option σ} {step' : τ → β → Option τ}
    {R : σ → τ → Prop} {vis : α → Option γ} {vis' : β → Option γ}
    (hstep : ∀ s m a s', R s m → step s a = some s' →
      ∃ bs m', run step' m bs = some m' ∧ bs.filterMap vis' = (vis a).toList ∧ R s' m')
    {s t : σ} {m : τ} {as : List α} (hs : R s m) (hrun : run step s as = some t) :
    ∃ bs m', run step' m bs = some m' ∧ bs.filterMap vis' = as.filterMap vis ∧ R t m' := by
  induction as generalizing s m with
  | nil =>
    obtain rfl : s = t := by simpa using hrun
    exact ⟨[], m, rfl, rfl, hs⟩
  | cons a as ih =>
    obtain ⟨s', ha, hrest⟩ := run_cons_eq_some.mp hrun
    obtain ⟨bs, m₁, hbs, hvis, hs'⟩ := hstep s m a s' hs ha
    obtain ⟨bs', m', hbs', hvis', ht⟩ := ih hs' hrest
    refine ⟨bs ++ bs', m', ?_, ?_, ht⟩
    · rw [run_append, hbs, Option.bind_some, hbs']
    · rw [List.filterMap_append, hvis, hvis', List.filterMap_cons]
      cases vis a <;> rfl

/-- The sum of the weights of the elements of a list. -/
def total (w : α → ℕ) : List α → ℕ
  | [] => 0
  | a :: as => w a + total w as

/-- The weights of a concatenation. -/
@[simp] lemma total_append (w : α → ℕ) (as bs : List α) :
    total w (as ++ bs) = total w as + total w bs := by
  induction as with
  | nil => exact (Nat.zero_add _).symm
  | cons a as ih => rw [List.cons_append, total, total, ih, Nat.add_assoc]

/-- The weight of a list of one element. -/
@[simp] lemma total_singleton (w : α → ℕ) (a : α) : total w [a] = w a := rfl

/-- An element that is taken out takes its weight along. -/
lemma total_erase [DecidableEq α] (w : α → ℕ) {a : α} {as : List α} (h : a ∈ as) :
    total w (as.erase a) + w a = total w as := by
  induction as with
  | nil => cases h
  | cons b as ih =>
    by_cases hba : b = a
    · subst hba
      rw [List.erase_cons_head, total, Nat.add_comm]
    · have hmem : a ∈ as := (List.mem_cons.mp h).resolve_left (Ne.symm hba)
      rw [List.erase_cons_tail (by simpa using hba), total, total, Nat.add_assoc, ih hmem]

/-- **Budget rule.**  Let every step bring at most its cost, and one that works take one off what is
ahead.  Then the steps of a run that work, and what is ahead after it, are paid for by what was
ahead before it and the costs. -/
theorem run_budget {step : σ → α → Option σ} {I : σ → Prop} {work : α → Bool} {cost : α → ℕ}
    {ahead : σ → ℕ} (hI : ∀ s a s', I s → step s a = some s' → I s')
    (hstep : ∀ s a s', I s → step s a = some s' →
      ahead s' + (if work a then 1 else 0) ≤ ahead s + cost a) {s t : σ} {as : List α}
    (hs : I s) (hrun : run step s as = some t) :
    as.countP work + ahead t ≤ ahead s + total cost as := by
  have hnil : ([] : List α).countP work + ahead s ≤ ahead s + total cost [] :=
    Nat.le_of_eq (Nat.zero_add _)
  have hrule := run_history
    (I := fun s' before => I s' ∧ before.countP work + ahead s' ≤ ahead s + total cost before)
    ?_ ⟨hs, hnil⟩ hrun
  · exact hrule.2
  · rintro s₁ a s₂ before ⟨h, hbefore⟩ ha
    have hnext := hstep s₁ a s₂ h ha
    refine ⟨hI s₁ a s₂ h ha, ?_⟩
    rw [List.countP_append, List.countP_singleton, total_append, total_singleton]
    omega

/-- **Rest rule.**  If work that is done is work less ahead, and in every state that is not at rest
some work can be done, then a run of work leads to rest. -/
theorem exists_run_rest {step : σ → α → Option σ} {I Rest : σ → Prop} {work : α → Prop}
    (ahead : σ → ℕ) (hI : ∀ s a s', I s → step s a = some s' → I s')
    (hless : ∀ s a s', I s → work a → step s a = some s' → ahead s' < ahead s)
    (hprogress : ∀ s, I s → ¬ Rest s → ∃ a s', work a ∧ step s a = some s') {s : σ} (hs : I s) :
    ∃ as t, (∀ a ∈ as, work a) ∧ run step s as = some t ∧ Rest t := by
  -- The work that is ahead is a natural number, so it ends.
  induction hn : ahead s using Nat.strong_induction_on generalizing s with
  | _ n ih =>
    by_cases hrest : Rest s
    · exact ⟨[], s, by simp, rfl, hrest⟩
    · obtain ⟨a, s', hwork, ha⟩ := hprogress s hs hrest
      have hlt : ahead s' < n := hn ▸ hless s a s' hs hwork ha
      obtain ⟨as, t, has, hrun, ht⟩ := ih (ahead s') hlt (hI s a s' hs ha) rfl
      exact ⟨a :: as, t, List.forall_mem_cons.mpr ⟨hwork, has⟩,
        run_cons_eq_some.mpr ⟨s', ha, hrun⟩, ht⟩

/-- **Exact rule.**  If a step leads to a good state exactly from a good state with an admissible
step, a run does exactly from a good state with admissible steps only. -/
theorem run_iff {step : σ → α → Option σ} {ok : σ → α → Prop} {I : σ → Prop}
    (hstep : ∀ s a s', step s a = some s' → (I s' ↔ I s ∧ ok s a)) {s t : σ} {as : List α}
    (hrun : run step s as = some t) : I t ↔ I s ∧ RunMeets step ok s as := by
  induction as generalizing s with
  | nil =>
    obtain rfl : s = t := by simpa using hrun
    exact (and_iff_left trivial).symm
  | cons a as ih =>
    obtain ⟨s', hs', hrest⟩ := run_cons_eq_some.mp hrun
    rw [ih hrest, hstep s a s' hs']
    constructor
    · rintro ⟨⟨hs, ha⟩, has⟩
      exact ⟨hs, runMeets_cons ha hs' has⟩
    · rintro ⟨hs, ha, has⟩
      exact ⟨⟨hs, ha⟩, has s' hs'⟩

/-- **Exact rule for the states of a run.**  Let `I` be an invariant of the admissible steps that
implies `Good`, and let a step that is not admissible lead from `I` out of `Good`.  Then all states
of a run that starts in `I` are good exactly when all its steps are admissible. -/
theorem forall_good_iff {step : σ → α → Option σ} {ok : σ → α → Prop} {I Good : σ → Prop}
    (hgood : ∀ s, I s → Good s)
    (hstep : ∀ s a s', I s → ok s a → step s a = some s' → I s')
    (hbad : ∀ s a s', I s → ¬ ok s a → step s a = some s' → ¬ Good s') {s t : σ} {as : List α}
    (hs : I s) (hrun : run step s as = some t) :
    (∀ pre post s', as = pre ++ post → run step s pre = some s' → Good s') ↔
      RunMeets step ok s as := by
  induction as generalizing s with
  | nil =>
    refine ⟨fun _ => trivial, fun _ pre post s' happend hpre => ?_⟩
    obtain ⟨rfl, -⟩ := List.append_eq_nil_iff.mp happend.symm
    obtain rfl : s = s' := Option.some.inj hpre
    exact hgood s hs
  | cons a as ih =>
    obtain ⟨s₁, ha, hrest⟩ := run_cons_eq_some.mp hrun
    constructor
    · intro hall
      have hone : run step s [a] = some s₁ := run_cons_eq_some.mpr ⟨s₁, ha, rfl⟩
      have hok : ok s a := by
        by_contra hok
        exact hbad s a s₁ hs hok ha (hall [a] as s₁ rfl hone)
      refine runMeets_cons hok ha
        ((ih (hstep s a s₁ hs hok ha) hrest).mp fun pre post s' happend hpre => ?_)
      refine hall (a :: pre) post s' (by rw [happend, List.cons_append]) ?_
      exact run_cons_eq_some.mpr ⟨s₁, ha, hpre⟩
    · intro hmeets pre post s' happend hpre
      cases pre with
      | nil =>
        obtain rfl : s = s' := Option.some.inj hpre
        exact hgood s hs
      | cons b pre =>
        obtain ⟨rfl, htail⟩ := List.cons.inj happend
        obtain ⟨s₂, hb, hpre⟩ := run_cons_eq_some.mp hpre
        obtain rfl := Option.some.inj (ha.symm.trans hb)
        exact (ih (hstep s a s₁ hs hmeets.1 ha) hrest).mpr (hmeets.2 s₁ ha) pre post s' htail hpre

/-- The exact rule where a step from a good state leads to a good state exactly when it is
admissible.  The exactness may rest on an invariant `J` of all steps. -/
theorem forall_prefix_iff {step : σ → α → Option σ} {ok : σ → α → Prop} {I J : σ → Prop}
    (hJ : ∀ s a s', J s → step s a = some s' → J s')
    (hstep : ∀ s a s', J s → I s → step s a = some s' → (I s' ↔ ok s a)) {s t : σ} {as : List α}
    (hs : J s) (hI : I s) (hrun : run step s as = some t) :
    (∀ pre post s', as = pre ++ post → run step s pre = some s' → I s') ↔
      RunMeets step ok s as := by
  refine forall_good_iff (I := fun s => J s ∧ I s) (fun s h => h.2) ?_ ?_ ⟨hs, hI⟩ hrun
  · intro s a s' h hok ha
    exact ⟨hJ s a s' h.1 ha, (hstep s a s' h.1 h.2 ha).mpr hok⟩
  · intro s a s' h hok ha hI'
    exact hok ((hstep s a s' h.1 h.2 ha).mp hI')

/-- Some label sets, and no later one resets. -/
def Latched (set reset : α → Prop) (as : List α) : Prop :=
  ∃ pre a post, as = pre ++ a :: post ∧ set a ∧ ∀ b ∈ post, ¬ reset b

/-- What is latched stays so if a label is put in front. -/
lemma Latched.cons {set reset : α → Prop} {as : List α} (h : Latched set reset as) (a : α) :
    Latched set reset (a :: as) := by
  obtain ⟨pre, b, post, rfl, hb, hpost⟩ := h
  exact ⟨a :: pre, b, post, rfl, hb, hpost⟩

/-- Two ways of setting. -/
lemma latched_or {set₁ set₂ reset : α → Prop} {as : List α} :
    Latched (fun a => set₁ a ∨ set₂ a) reset as ↔
      Latched set₁ reset as ∨ Latched set₂ reset as := by
  constructor
  · rintro ⟨pre, a, post, happend, ha | ha, hpost⟩
    · exact Or.inl ⟨pre, a, post, happend, ha, hpost⟩
    · exact Or.inr ⟨pre, a, post, happend, ha, hpost⟩
  · rintro (⟨pre, a, post, happend, ha, hpost⟩ | ⟨pre, a, post, happend, ha, hpost⟩)
    · exact ⟨pre, a, post, happend, Or.inl ha, hpost⟩
    · exact ⟨pre, a, post, happend, Or.inr ha, hpost⟩

/-- What is set and not reset holds in the end. -/
theorem of_latched {step : σ → α → Option σ} {set reset : α → Prop} {P : σ → Prop}
    (hset : ∀ s a s', set a → step s a = some s' → P s')
    (hkeep : ∀ s a s', P s → ¬ reset a → step s a = some s' → P s') {s t : σ} {as : List α}
    (hrun : run step s as = some t) (h : Latched set reset as) : P t := by
  obtain ⟨pre, a, post, rfl, ha, hpost⟩ := h
  rw [run_append] at hrun
  obtain ⟨s₁, -, hrun⟩ := Option.bind_eq_some_iff.mp hrun
  obtain ⟨s₂, hs₂, hrun⟩ := run_cons_eq_some.mp hrun
  have hmeets : RunMeets step (fun _ b => ¬ reset b) s₂ post :=
    runMeets_of_forall (fun b hb _ => hpost b hb) s₂
  exact run_invariant hkeep (hset s₁ a s₂ ha hs₂) hmeets hrun

/-- What holds in the end was set and not reset, or it held before and was not reset. -/
lemma latched_of_run {step : σ → α → Option σ} {set reset : α → Prop} {P : σ → Prop}
    (hstep : ∀ s a s', step s a = some s' → P s' → set a ∨ ¬ reset a ∧ P s) {s t : σ}
    {as : List α} (hrun : run step s as = some t) (ht : P t) :
    Latched set reset as ∨ P s ∧ ∀ a ∈ as, ¬ reset a := by
  induction as generalizing s with
  | nil =>
    obtain rfl : s = t := by simpa using hrun
    exact Or.inr ⟨ht, by simp⟩
  | cons a as ih =>
    obtain ⟨s₁, ha, hrest⟩ := run_cons_eq_some.mp hrun
    rcases ih hrest with h | ⟨hs₁, has⟩
    · exact Or.inl (h.cons a)
    · rcases hstep s a s₁ ha hs₁ with hset | ⟨hreset, hs⟩
      · exact Or.inl ⟨[], a, as, rfl, hset, has⟩
      · exact Or.inr ⟨hs, List.forall_mem_cons.mpr ⟨hreset, has⟩⟩

/-- **Latch rule.**  A property that does not hold at the start, and that after a step holds exactly
if the step sets it, or does not reset it and it held, holds after a run exactly if it was set and
not reset. -/
theorem latch_iff {step : σ → α → Option σ} {set reset : α → Prop} {P : σ → Prop}
    (hstep : ∀ s a s', step s a = some s' → (P s' ↔ set a ∨ ¬ reset a ∧ P s)) {s t : σ}
    {as : List α} (hs : ¬ P s) (hrun : run step s as = some t) :
    P t ↔ Latched set reset as := by
  constructor
  · intro ht
    rcases latched_of_run (fun s a s' h => (hstep s a s' h).mp) hrun ht with h | ⟨h, -⟩
    · exact h
    · exact absurd h hs
  · exact of_latched (fun s a s' ha h => (hstep s a s' h).mpr (Or.inl ha))
      (fun s a s' hP ha h => (hstep s a s' h).mpr (Or.inr ⟨ha, hP⟩)) hrun

end StepRun
