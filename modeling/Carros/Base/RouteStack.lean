import Mathlib.Data.List.Infix

/-!
# A stack of routes

The navigator of an app: a stack of routes, top first, each with a number of its own.  `push` puts a
new route on top, `pop` removes the top one, and a route that was removed stays mounted until it is
disposed of.

Whatever is pushed and popped, the routes under a route are the same as long as it is on the stack:
`Under r st` says this of a route `r` and the routes `st`, and every operation keeps it
(`Under.acts`).
-/

/-- A route: its number and its page. -/
structure Route (π : Type*) where
  id : ℕ
  page : π
  deriving DecidableEq, Repr

/-- The stack of routes, top first, the routes that left it and are not disposed of yet, and the
number of the next route. -/
structure RouteStack (π : Type*) where
  stack : List (Route π)
  leaving : List (Route π)
  next : ℕ
  deriving DecidableEq, Repr

/-- What can be asked of a navigator. -/
inductive RouteOp (π : Type*) where
  | push (page : π)
  | pop
  | dispose (k : ℕ)
  deriving DecidableEq, Repr

namespace RouteStack

variable {π : Type*} {s : RouteStack π} {r : Route π} {st : List (Route π)}

/-- The route is on the stack, or it left it and is not disposed of yet. -/
def mounted (s : RouteStack π) (id : ℕ) : Bool := (s.stack ++ s.leaving).any fun r => r.id = id

/-- What the navigator does; a `pop` of an empty stack removes nothing. -/
def act (s : RouteStack π) : RouteOp π → RouteStack π
  | .push page => ⟨⟨s.next, page⟩ :: s.stack, s.leaving, s.next + 1⟩
  | .pop => ⟨s.stack.tail, s.stack.head?.toList ++ s.leaving, s.next⟩
  | .dispose k => { s with leaving := s.leaving.eraseIdx k }

/-- What it does one after the other. -/
def acts (s : RouteStack π) (ops : List (RouteOp π)) : RouteStack π := ops.foldl act s

/-- Nothing to do. -/
@[simp] lemma acts_nil (s : RouteStack π) : s.acts [] = s := rfl

/-- The first operation, and the others. -/
@[simp] lemma acts_cons (s : RouteStack π) (op : RouteOp π) (ops : List (RouteOp π)) :
    s.acts (op :: ops) = (s.act op).acts ops := rfl

/-- The numbers of the routes on the stack decrease, and the next one is larger. -/
def Numbered (s : RouteStack π) : Prop :=
  (s.stack.map Route.id).Pairwise (· > ·) ∧ ∀ r ∈ s.stack, r.id < s.next

/-- Every operation keeps the numbering. -/
lemma Numbered.act (h : s.Numbered) (op : RouteOp π) : (s.act op).Numbered := by
  obtain ⟨hsorted, hlt⟩ := h
  cases op with
  | push page =>
    refine ⟨List.pairwise_cons.mpr ⟨?_, hsorted⟩, ?_⟩
    · exact List.forall_mem_map.mpr hlt
    · exact List.forall_mem_cons.mpr
        ⟨Nat.lt_succ_self _, fun r hr => Nat.lt_succ_of_lt (hlt r hr)⟩
  | pop =>
    refine ⟨?_, fun r hr => hlt r (List.mem_of_mem_tail hr)⟩
    rw [RouteStack.act, List.map_tail]
    exact hsorted.tail
  | dispose k => exact ⟨hsorted, hlt⟩

/-- While the route `r` is on the stack, the routes `st` are under it. -/
structure Under (r : Route π) (st : List (Route π)) (s : RouteStack π) : Prop where
  numbered : s.Numbered
  lt : r.id < s.next
  suffix : r ∈ s.stack → r :: st <:+ s.stack

/-- A new route has the stack under it. -/
lemma under_push (h : s.Numbered) (page : π) :
    Under ⟨s.next, page⟩ s.stack (s.act (.push page)) :=
  ⟨h.act _, Nat.lt_succ_self _, fun _ => List.suffix_rfl⟩

/-- An operation keeps what is under a route. -/
lemma Under.act (h : s.Under r st) (op : RouteOp π) : (s.act op).Under r st := by
  refine ⟨h.numbered.act op, ?_, fun hr => ?_⟩
  · cases op with
    | push page => exact Nat.lt_succ_of_lt h.lt
    | pop => exact h.lt
    | dispose k => exact h.lt
  · cases op with
    | push page =>
      -- The new route has a new number.
      rcases List.mem_cons.mp hr with rfl | hr
      · exact absurd h.lt (Nat.lt_irrefl _)
      · exact (h.suffix hr).trans (List.suffix_cons _ _)
    | pop =>
      have hr' : r ∈ s.stack := List.mem_of_mem_tail hr
      have hsuffix := h.suffix hr'
      obtain ⟨hsorted, -⟩ := h.numbered
      cases hstack : s.stack with
      | nil =>
        rw [hstack] at hr'
        cases hr'
      | cons x rest =>
        rw [RouteStack.act, hstack] at hr
        rw [RouteStack.act, hstack]
        rw [hstack] at hsuffix hsorted
        rcases List.suffix_cons_iff.mp hsuffix with heq | hrest
        · -- The top route does not occur again.
          obtain ⟨rfl, -⟩ := List.cons.inj heq
          have hgt := (List.pairwise_cons.mp hsorted).1 r.id (List.mem_map_of_mem hr)
          exact absurd hgt (Nat.lt_irrefl _)
        · exact hrest
    | dispose k => exact h.suffix hr

/-- What is under a route stays there. -/
theorem Under.acts (h : s.Under r st) (ops : List (RouteOp π)) : (s.acts ops).Under r st := by
  induction ops generalizing s with
  | nil => exact h
  | cons op ops ih => exact ih (h.act op)

/-- The stack under the top route. -/
lemma Under.tail_eq (h : s.Under r st) {rest : List (Route π)} (hs : s.stack = r :: rest) :
    rest = st := by
  have hsuffix := h.suffix (hs ▸ List.mem_cons_self)
  obtain ⟨hsorted, -⟩ := h.numbered
  rw [hs] at hsuffix hsorted
  rcases List.suffix_cons_iff.mp hsuffix with heq | hrest
  · exact (List.cons.inj heq).2.symm
  · have hmem : r ∈ rest := hrest.subset List.mem_cons_self
    have hgt := (List.pairwise_cons.mp hsorted).1 r.id (List.mem_map_of_mem hmem)
    exact absurd hgt (Nat.lt_irrefl _)

end RouteStack
