import Mathlib.Data.List.AList
import Mathlib.Logic.Function.Iterate

/-!
# A register with pending operations

A register whose reads and writes are issued at once and take effect later, in the order in which
they were issued.  `issue` appends an operation to the queue, `deliver` lets the oldest pending
operation take effect: a write changes the value, a read answers its reader with the value.

`settled` is the value the register will have once everything pending has taken effect, which is
what a read issued now will be answered with: it is the value `drain` leaves.  Deliveries do not
change it (`settled_deliver`), and a write issued now is what it becomes (`settled_issue_write`).

`Answers P` says of every pending read which value it will be answered with, next to the value the
register settles on.  An issued operation and a delivery keep it, under what they have to know about
`P`.  `readers` are those who wait.
-/

/-- An operation on a register of values `ν`, with readers tagged by `ρ`. -/
inductive RegisterOp (ν ρ : Type*) where
  | write (v : ν)
  | read (who : ρ)
  deriving DecidableEq, Repr

/-- A register with its pending operations, oldest first. -/
structure PendingRegister (ν ρ : Type*) where
  value : Option ν
  queue : List (RegisterOp ν ρ)
  deriving DecidableEq, Repr

namespace PendingRegister

variable {ν ρ : Type*}

/-- The value after a list of operations. -/
def settle (value : Option ν) : List (RegisterOp ν ρ) → Option ν
  | [] => value
  | .write v :: q => settle (some v) q
  | .read _ :: q => settle value q

/-- The value once everything pending has taken effect. -/
def settled (r : PendingRegister ν ρ) : Option ν := settle r.value r.queue

/-- Issue an operation. -/
def issue (r : PendingRegister ν ρ) (op : RegisterOp ν ρ) : PendingRegister ν ρ :=
  { r with queue := r.queue ++ [op] }

/-- Let the oldest pending operation take effect; a register with none stays as it is. -/
def deliver (r : PendingRegister ν ρ) : PendingRegister ν ρ :=
  match r.queue with
  | [] => r
  | .write v :: q => ⟨some v, q⟩
  | .read _ :: q => ⟨r.value, q⟩

/-- The register once everything pending has taken effect, delivery by delivery. -/
def drain (r : PendingRegister ν ρ) : PendingRegister ν ρ := deliver^[r.queue.length] r

/-- No write is pending. -/
def Quiet (r : PendingRegister ν ρ) : Prop := ∀ v, RegisterOp.write v ∉ r.queue

/-- The operations of a concatenation take effect one part after the other. -/
lemma settle_append (value : Option ν) (q q' : List (RegisterOp ν ρ)) :
    settle value (q ++ q') = settle (settle value q) q' := by
  induction q generalizing value with
  | nil => rfl
  | cons op q ih => cases op <;> exact ih _

/-- A write issued now is what the register settles on. -/
@[simp] lemma settled_issue_write (r : PendingRegister ν ρ) (v : ν) :
    (r.issue (.write v)).settled = some v := by
  simp [issue, settled, settle_append, settle]

/-- A read issued now does not change what the register settles on. -/
@[simp] lemma settled_issue_read (r : PendingRegister ν ρ) (who : ρ) :
    (r.issue (.read who)).settled = r.settled := by
  simp [issue, settled, settle_append, settle]

/-- A delivery does not change what the register settles on. -/
@[simp] lemma settled_deliver (r : PendingRegister ν ρ) : r.deliver.settled = r.settled := by
  obtain ⟨value, queue⟩ := r
  cases queue with
  | nil => rfl
  | cons op q => cases op <;> rfl

/-- Draining a register leaves nothing pending and the value it settles on. -/
lemma drain_eq (r : PendingRegister ν ρ) : r.drain = ⟨r.settled, []⟩ := by
  obtain ⟨value, queue⟩ := r
  unfold drain
  induction queue generalizing value with
  | nil => rfl
  | cons op q ih =>
    rw [List.length_cons, Function.iterate_succ_apply]
    cases op with
    | write v => exact ih (some v)
    | read who => exact ih value

/-- Reads alone do not change the value. -/
lemma settle_of_forall_read {q : List (RegisterOp ν ρ)} (hq : ∀ v, RegisterOp.write v ∉ q)
    (value : Option ν) : settle value q = value := by
  induction q with
  | nil => rfl
  | cons op q ih =>
    cases op with
    | write v => exact absurd List.mem_cons_self (hq v)
    | read who => exact ih fun v hv => hq v (List.mem_cons_of_mem _ hv)

/-- With no write pending the register already has the value it settles on. -/
lemma Quiet.settled {r : PendingRegister ν ρ} (h : r.Quiet) : r.settled = r.value :=
  settle_of_forall_read h r.value

/-! ## Pending reads -/

/-- Every pending read `who` is answered with a value `v` for which `P who v w` holds, `w` being the
value after all operations. -/
def AnswersFrom (P : ρ → Option ν → Option ν → Prop) (value : Option ν) :
    List (RegisterOp ν ρ) → Prop
  | [] => True
  | .write v :: q => AnswersFrom P (some v) q
  | .read who :: q => P who value (settle value q) ∧ AnswersFrom P value q

/-- Every pending read of the register is answered so that `P` holds. -/
def Answers (P : ρ → Option ν → Option ν → Prop) (r : PendingRegister ν ρ) : Prop :=
  AnswersFrom P r.value r.queue

variable {P Q : ρ → Option ν → Option ν → Prop} {r : PendingRegister ν ρ}

/-- A read issued now is answered with what the register settles on. -/
lemma Answers.issue_read (h : r.Answers P) {who : ρ} (hP : P who r.settled r.settled) :
    (r.issue (.read who)).Answers P := by
  obtain ⟨value, queue⟩ := r
  simp only [Answers, issue] at h ⊢
  induction queue generalizing value with
  | nil => exact ⟨hP, trivial⟩
  | cons op q ih =>
    cases op with
    | write v => exact ih (some v) h hP
    | read who' =>
      have hsettle : settle value (q ++ [.read who]) = settle value q := by
        rw [settle_append]
        rfl
      exact ⟨hsettle ▸ h.1, ih value h.2 hP⟩

/-- After a write issued now every pending read has to suit the new value. -/
lemma Answers.issue_write (h : r.Answers P) {v : ν}
    (hPQ : ∀ who u, P who u r.settled → Q who u (some v)) :
    (r.issue (.write v)).Answers Q := by
  obtain ⟨value, queue⟩ := r
  simp only [Answers, issue] at h ⊢
  induction queue generalizing value with
  | nil => trivial
  | cons op q ih =>
    cases op with
    | write u => exact ih (some u) h hPQ
    | read who =>
      have hsettle : settle value (q ++ [.write v]) = some v := by
        rw [settle_append]
        rfl
      exact ⟨hsettle ▸ hPQ who value h.1, ih value h.2 hPQ⟩

/-- A delivery takes nothing from what is known about the reads still pending. -/
lemma Answers.deliver (h : r.Answers P) : r.deliver.Answers P := by
  obtain ⟨value, queue⟩ := r
  cases queue with
  | nil => exact h
  | cons op q =>
    cases op with
    | write v => exact h
    | read who => exact h.2

/-- What is known about the oldest pending read. -/
lemma Answers.of_queue_eq (h : r.Answers P) {who : ρ} {q : List (RegisterOp ν ρ)}
    (hq : r.queue = .read who :: q) : P who r.value r.settled := by
  obtain ⟨value, queue⟩ := r
  obtain rfl : queue = .read who :: q := hq
  exact h.1

/-- The value after a delivery is the one before it, or was written. -/
lemma value_deliver {I : Option ν → Prop} (hvalue : I r.value)
    (hwrite : ∀ v, RegisterOp.write v ∈ r.queue → I (some v)) : I r.deliver.value := by
  obtain ⟨value, queue⟩ := r
  cases queue with
  | nil => exact hvalue
  | cons op q =>
    cases op with
    | write v => exact hwrite v List.mem_cons_self
    | read who => exact hvalue

/-- A delivery makes nothing pending. -/
lemma mem_queue_of_deliver {op : RegisterOp ν ρ} (h : op ∈ r.deliver.queue) : op ∈ r.queue := by
  obtain ⟨value, queue⟩ := r
  cases queue with
  | nil => exact h
  | cons op' q => cases op' <;> exact List.mem_cons_of_mem _ h

/-- The readers of the pending reads, in order. -/
def readers (r : PendingRegister ν ρ) : List ρ :=
  r.queue.filterMap fun op =>
    match op with
    | .read who => some who
    | .write _ => none

/-- A write issued now adds no reader. -/
@[simp] lemma readers_issue_write (r : PendingRegister ν ρ) (v : ν) :
    (r.issue (.write v)).readers = r.readers := by
  simp [issue, readers]

/-- A read issued now adds its reader. -/
@[simp] lemma readers_issue_read (r : PendingRegister ν ρ) (who : ρ) :
    (r.issue (.read who)).readers = r.readers ++ [who] := by
  simp [issue, readers]

/-- A delivery adds no reader. -/
lemma readers_deliver_sublist (r : PendingRegister ν ρ) : r.deliver.readers.Sublist r.readers := by
  obtain ⟨value, queue⟩ := r
  cases queue with
  | nil => exact List.Sublist.refl _
  | cons op q =>
    cases op with
    | write v => exact List.Sublist.refl _
    | read who => exact List.sublist_cons_self who _

/-- A delivery answers the first reader. -/
lemma readers_of_queue_eq {who : ρ} {q : List (RegisterOp ν ρ)} (h : r.queue = .read who :: q) :
    r.readers = who :: r.deliver.readers := by
  obtain ⟨value, queue⟩ := r
  obtain rfl : queue = .read who :: q := h
  rfl

/-- What is known of the pending reads may be weakened for their readers. -/
lemma Answers.imp (h : r.Answers P) (hPQ : ∀ who ∈ r.readers, ∀ v w, P who v w → Q who v w) :
    r.Answers Q := by
  obtain ⟨value, queue⟩ := r
  simp only [Answers, readers] at h hPQ ⊢
  induction queue generalizing value with
  | nil => trivial
  | cons op q ih =>
    cases op with
    | write v => exact ih (some v) h hPQ
    | read who =>
      have hmem : ∀ who' ∈ _, ∀ v w, P who' v w → Q who' v w := List.forall_mem_cons.mp hPQ |>.2
      exact ⟨hPQ who List.mem_cons_self _ _ h.1, ih value h.2 hmem⟩

/-- Something is known of every reader. -/
lemma Answers.of_mem_readers (h : r.Answers P) {who : ρ} (hwho : who ∈ r.readers) :
    ∃ v w, P who v w := by
  obtain ⟨value, queue⟩ := r
  simp only [Answers, readers] at h hwho
  induction queue generalizing value with
  | nil => exact absurd hwho List.not_mem_nil
  | cons op q ih =>
    cases op with
    | write v => exact ih (some v) h hwho
    | read who' =>
      rcases List.mem_cons.mp hwho with rfl | hwho
      · exact ⟨_, _, h.1⟩
      · exact ih value h.2 hwho

end PendingRegister
