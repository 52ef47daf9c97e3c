import Carros.Base.PendingRegister

/-!
# A store with pending operations

A store of many keys whose reads and writes are issued at once and take effect later, in the order
in which they were issued, whatever their keys.

`register` is what one key sees of it: a `PendingRegister` with the operations on that key.  Issuing
and delivering an operation is issuing and delivering it in the register of its key
(`register_issue`, `register_deliver_of_key`) and does nothing to the registers of the others
(`register_issue_of_ne`, `register_deliver_of_ne`), so what is known about registers is known about
the keys of a store.
-/

/-- An operation on a store with keys `κ`, values `ν` and readers `ρ`: an operation on one key. -/
structure StoreOp (κ ν ρ : Type*) where
  key : κ
  op : RegisterOp ν ρ
  deriving DecidableEq, Repr

/-- A store with its pending operations, oldest first. -/
structure PendingStore (κ ν ρ : Type*) where
  value : κ → Option ν
  queue : List (StoreOp κ ν ρ)

namespace PendingStore

variable {κ ν ρ : Type*}

/-- Issue an operation. -/
def issue (st : PendingStore κ ν ρ) (key : κ) (op : RegisterOp ν ρ) : PendingStore κ ν ρ :=
  { st with queue := st.queue ++ [⟨key, op⟩] }

/-- What has not taken effect is lost. -/
def crash (st : PendingStore κ ν ρ) : PendingStore κ ν ρ := { st with queue := [] }

variable [DecidableEq κ]

/-- Let the oldest pending operation take effect; a store with none stays as it is. -/
def deliver (st : PendingStore κ ν ρ) : PendingStore κ ν ρ :=
  match st.queue with
  | [] => st
  | ⟨key, .write v⟩ :: q => ⟨Function.update st.value key (some v), q⟩
  | ⟨_, .read _⟩ :: q => ⟨st.value, q⟩

/-- The operations on one key. -/
def opsAt (k : κ) (q : List (StoreOp κ ν ρ)) : List (RegisterOp ν ρ) :=
  q.filterMap fun o => if o.key = k then some o.op else none

/-- What one key sees of the store. -/
def register (st : PendingStore κ ν ρ) (k : κ) : PendingRegister ν ρ :=
  ⟨st.value k, opsAt k st.queue⟩

variable {st : PendingStore κ ν ρ} {k : κ}

/-- The operations on a key of a concatenation. -/
lemma opsAt_append (k : κ) (q q' : List (StoreOp κ ν ρ)) :
    opsAt k (q ++ q') = opsAt k q ++ opsAt k q' := List.filterMap_append

/-- An operation on the key comes first. -/
lemma opsAt_cons_self (k : κ) (op : RegisterOp ν ρ) (q : List (StoreOp κ ν ρ)) :
    opsAt k (⟨k, op⟩ :: q) = op :: opsAt k q := by
  rw [opsAt, List.filterMap_cons_some (by rw [if_pos rfl])]
  rfl

/-- An operation on another key is not seen. -/
lemma opsAt_cons_of_ne {key : κ} (h : key ≠ k) (op : RegisterOp ν ρ)
    (q : List (StoreOp κ ν ρ)) : opsAt k (⟨key, op⟩ :: q) = opsAt k q := by
  rw [opsAt, List.filterMap_cons_none (by rw [if_neg h])]
  rfl

/-- An operation is issued in the register of its key. -/
@[simp] lemma register_issue (st : PendingStore κ ν ρ) (k : κ) (op : RegisterOp ν ρ) :
    (st.issue k op).register k = (st.register k).issue op := by
  rw [register, issue, opsAt_append, opsAt_cons_self]
  rfl

/-- The registers of the other keys do not see that an operation is issued. -/
lemma register_issue_of_ne {key : κ} (h : key ≠ k) (op : RegisterOp ν ρ) :
    (st.issue key op).register k = st.register k := by
  have hnil : opsAt k ([] : List (StoreOp κ ν ρ)) = [] := rfl
  rw [register, issue, opsAt_append, opsAt_cons_of_ne h, hnil, List.append_nil]
  rfl

/-- The oldest operation takes effect in the register of its key. -/
lemma register_deliver_of_key {op : RegisterOp ν ρ} {q : List (StoreOp κ ν ρ)}
    (h : st.queue = ⟨k, op⟩ :: q) : st.deliver.register k = (st.register k).deliver := by
  obtain ⟨value, queue⟩ := st
  obtain rfl : queue = ⟨k, op⟩ :: q := h
  have hregister : register ⟨value, ⟨k, op⟩ :: q⟩ k = ⟨value k, op :: opsAt k q⟩ := by
    rw [register, opsAt_cons_self]
  rw [hregister]
  cases op with
  | write v => simp [deliver, PendingRegister.deliver, register]
  | read who => rfl

/-- The registers of the other keys do not see that an operation takes effect. -/
lemma register_deliver_of_ne {key : κ} {op : RegisterOp ν ρ} {q : List (StoreOp κ ν ρ)}
    (h : st.queue = ⟨key, op⟩ :: q) (hne : key ≠ k) :
    st.deliver.register k = st.register k := by
  obtain ⟨value, queue⟩ := st
  obtain rfl : queue = ⟨key, op⟩ :: q := h
  have hregister : register ⟨value, ⟨key, op⟩ :: q⟩ k = ⟨value k, opsAt k q⟩ := by
    rw [register, opsAt_cons_of_ne hne]
  rw [hregister]
  cases op with
  | write v => simp [deliver, register, Function.update_of_ne (Ne.symm hne)]
  | read who => rfl

/-- A delivery is a delivery in the register of a key, or not seen there. -/
lemma register_deliver (st : PendingStore κ ν ρ) (k : κ) :
    st.deliver.register k = (st.register k).deliver ∨ st.deliver.register k = st.register k := by
  cases hq : st.queue with
  | nil =>
    right
    rw [deliver, hq]
  | cons o q =>
    obtain ⟨key, op⟩ := o
    by_cases hk : key = k
    · subst hk
      exact Or.inl (register_deliver_of_key hq)
    · exact Or.inr (register_deliver_of_ne hq hk)

/-- A delivery does not change what a key settles on. -/
@[simp] lemma settled_register_deliver (st : PendingStore κ ν ρ) (k : κ) :
    (st.deliver.register k).settled = (st.register k).settled := by
  rcases register_deliver st k with h | h
  · rw [h, PendingRegister.settled_deliver]
  · rw [h]

/-- A delivery takes nothing from what is known about the pending reads of a key. -/
lemma answers_deliver {P : ρ → Option ν → Option ν → Prop} (h : (st.register k).Answers P) :
    (st.deliver.register k).Answers P := by
  rcases register_deliver st k with hdeliver | hdeliver
  · rw [hdeliver]
    exact h.deliver
  · rwa [hdeliver]

/-- What is known about the oldest pending operation, if it is a read. -/
lemma answers_of_queue_eq {P : ρ → Option ν → Option ν → Prop} (h : (st.register k).Answers P)
    {who : ρ} {q : List (StoreOp κ ν ρ)} (hq : st.queue = ⟨k, .read who⟩ :: q) :
    P who (st.value k) (st.register k).settled := by
  refine PendingRegister.Answers.of_queue_eq (q := opsAt k q) h ?_
  rw [register, hq, opsAt_cons_self]

end PendingStore
