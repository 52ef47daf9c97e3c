import Mathlib.Data.List.DropRight

/-!
# Splitting joined text

A text is a list of symbols, one of which is the separator, and some of which are blank.  `Script`
says that a text has been put together from a list of items: with a gap of blanks and at least one
separator between two consecutive items, and possibly a gap before the first and after the last.

`pieces` splits a text at the separators and drops what is blank.  The main result is
`map_trim_pieces`: the pieces of such a text are its items, up to blanks at their ends.
-/

namespace SplitJoin

variable {α : Type*}

/-- A list without the blanks at its two ends. -/
def trim (blank : α → Bool) (l : List α) : List α := (l.dropWhile blank).rdropWhile blank

/-- The parts of a text between its separators, without the blank ones. -/
def pieces [BEq α] (sep : α) (blank : α → Bool) (text : List α) : List (List α) :=
  (text.splitOn sep).filter fun p => !(trim blank p).isEmpty

/-- A stretch of separators and blanks. -/
def Gap (sep : α) (blank : α → Bool) (g : List α) : Prop := ∀ x ∈ g, x = sep ∨ blank x = true

/-- The items of a list, one after the other, with a gap with a separator between any two of
them. -/
inductive Joined (sep : α) (blank : α → Bool) : List (List α) → List α → Prop
  | nil : Joined sep blank [] []
  | single (s : List α) : Joined sep blank [s] s
  | cons (s : List α) {s' : List α} {ss : List (List α)} {g text : List α}
      (hgap : Gap sep blank g) (hsep : sep ∈ g) (htext : Joined sep blank (s' :: ss) text) :
      Joined sep blank (s :: s' :: ss) (s ++ (g ++ text))

/-- Joined items, possibly with a gap before and after them. -/
def Script (sep : α) (blank : α → Bool) (ss : List (List α)) (text : List α) : Prop :=
  ∃ lead body trail, Gap sep blank lead ∧ Joined sep blank ss body ∧ Gap sep blank trail ∧
    text = lead ++ (body ++ trail)

/-- An item: it is not blank, and has no separator. -/
def Item (sep : α) (blank : α → Bool) (s : List α) : Prop := sep ∉ s ∧ trim blank s ≠ []

variable {sep : α} {blank : α → Bool}

/-- Blanks in front do not matter. -/
lemma trim_append_left {b : List α} (hb : ∀ x ∈ b, blank x = true) (l : List α) :
    trim blank (b ++ l) = trim blank l := by
  rw [trim, List.dropWhile_append_of_pos hb, trim]

/-- Blanks behind do not matter. -/
lemma trim_append_right {b : List α} (hb : ∀ x ∈ b, blank x = true) (l : List α) :
    trim blank (l ++ b) = trim blank l := by
  have hdrop : (l ++ b).dropWhile blank = [] ∨
      (l ++ b).dropWhile blank = l.dropWhile blank ++ b := by
    rw [List.dropWhile_append]
    split
    · exact Or.inl (List.dropWhile_eq_nil_iff.mpr hb)
    · exact Or.inr rfl
  rcases hdrop with hdrop | hdrop
  · have hl : l.dropWhile blank = [] := by
      refine List.dropWhile_eq_nil_iff.mpr fun x hx => ?_
      exact List.dropWhile_eq_nil_iff.mp hdrop x (List.mem_append_left b hx)
    rw [trim, hdrop, trim, hl]
  · rw [trim, hdrop, trim, List.rdropWhile, List.rdropWhile, List.reverse_append,
      List.dropWhile_append_of_pos fun x hx => hb x (List.mem_reverse.mp hx)]

/-- Blanks behind an item leave an item that is the same up to its ends. -/
lemma Item.append_blank {s b : List α} (hs : Item sep blank s) (hb : ∀ x ∈ b, blank x = true)
    (hsep : sep ∉ b) : Item sep blank (s ++ b) ∧ trim blank (s ++ b) = trim blank s := by
  have htrim := trim_append_right hb s
  refine ⟨⟨?_, by rw [htrim]; exact hs.2⟩, htrim⟩
  simp [hs.1, hsep]

/-! ## The pieces of a text -/

variable [BEq α]

/-- A text without symbols has no pieces. -/
lemma pieces_nil : pieces sep blank [] = [] := by
  simp [pieces, trim]

variable [LawfulBEq α]

/-- A leading separator does not matter. -/
lemma pieces_cons_sep (text : List α) : pieces sep blank (sep :: text) = pieces sep blank text := by
  simp [pieces, List.splitOn_cons_eq_if_modifyHead, trim]

/-- An item in front of a separator is a piece. -/
lemma pieces_append_cons_sep {s : List α} (hs : Item sep blank s) (text : List α) :
    pieces sep blank (s ++ sep :: text) = s :: pieces sep blank text := by
  simp [pieces, List.splitOn_append_cons_self_of_not_mem hs.1, hs.2]

/-- An item is the only piece of itself. -/
lemma pieces_of_item {s : List α} (hs : Item sep blank s) : pieces sep blank s = [s] := by
  simp [pieces, List.splitOn_eq_singleton hs.1, hs.2]

/-- A leading blank changes the ends of the pieces only. -/
lemma map_trim_pieces_cons {x : α} (hx : blank x = true) (hne : x ≠ sep) (text : List α) :
    (pieces sep blank (x :: text)).map (trim blank) =
      (pieces sep blank text).map (trim blank) := by
  have htrim : ∀ p, trim blank (x :: p) = trim blank p :=
    fun p => trim_append_left (b := [x]) (by simpa using hx) p
  rw [pieces, List.splitOn_cons_eq_if_modifyHead, if_neg (by simpa using hne), pieces]
  cases text.splitOn sep with
  | nil => rfl
  | cons p ps =>
    rw [List.modifyHead_cons, List.filter_cons, List.filter_cons, htrim]
    split
    · rw [List.map_cons, List.map_cons, htrim]
    · rfl

/-- A gap in front changes the ends of the pieces only. -/
lemma map_trim_pieces_append {g : List α} (hg : Gap sep blank g) (text : List α) :
    (pieces sep blank (g ++ text)).map (trim blank) =
      (pieces sep blank text).map (trim blank) := by
  induction g with
  | nil => rfl
  | cons x g ih =>
    obtain ⟨hx, hg⟩ := List.forall_mem_cons.mp hg
    by_cases hsep : x = sep
    · rw [List.cons_append, hsep, pieces_cons_sep, ih hg]
    · rw [List.cons_append, map_trim_pieces_cons (hx.resolve_left hsep) hsep, ih hg]

/-- An item in front of a gap with a separator is the first piece, up to its ends. -/
lemma map_trim_pieces_item {s g : List α} (hs : Item sep blank s) (hg : Gap sep blank g)
    (hsep : sep ∈ g) (text : List α) :
    (pieces sep blank (s ++ (g ++ text))).map (trim blank) =
      trim blank s :: (pieces sep blank text).map (trim blank) := by
  -- The gap up to its first separator is blank.
  obtain ⟨b, g', rfl, hb⟩ := List.eq_append_cons_of_mem hsep
  have hblank : ∀ x ∈ b, blank x = true := fun x hx =>
    (hg x (List.mem_append_left _ hx)).resolve_left fun h => hb (h ▸ hx)
  have hg' : Gap sep blank g' := fun x hx => hg x (by simp [hx])
  obtain ⟨hitem, htrim⟩ := hs.append_blank hblank hb
  have htext : s ++ (b ++ sep :: g' ++ text) = s ++ b ++ sep :: (g' ++ text) := by simp
  rw [htext, pieces_append_cons_sep hitem, List.map_cons, htrim, map_trim_pieces_append hg']

/-- An item in front of a gap is the only piece, up to its ends. -/
lemma map_trim_pieces_last {s g : List α} (hs : Item sep blank s) (hg : Gap sep blank g) :
    (pieces sep blank (s ++ g)).map (trim blank) = [trim blank s] := by
  by_cases hsep : sep ∈ g
  · have h := map_trim_pieces_item hs hg hsep []
    rwa [List.append_nil, pieces_nil] at h
  · have hblank : ∀ x ∈ g, blank x = true := fun x hx =>
      (hg x hx).resolve_left fun h => hsep (h ▸ hx)
    obtain ⟨hitem, htrim⟩ := hs.append_blank hblank hsep
    rw [pieces_of_item hitem, List.map_singleton, htrim]

/-- Joined items with a gap behind them. -/
lemma Joined.map_trim_pieces {ss : List (List α)} {body trail : List α}
    (hbody : Joined sep blank ss body) (hss : ∀ s ∈ ss, Item sep blank s)
    (htrail : Gap sep blank trail) :
    (pieces sep blank (body ++ trail)).map (trim blank) = ss.map (trim blank) := by
  induction hbody with
  | nil =>
    have h := map_trim_pieces_append htrail []
    rwa [List.append_nil, pieces_nil] at h
  | single s => exact map_trim_pieces_last (hss s List.mem_cons_self) htrail
  | cons s hgap hsep htext ih =>
    obtain ⟨hs, hss⟩ := List.forall_mem_cons.mp hss
    rw [List.append_assoc, List.append_assoc, map_trim_pieces_item hs hgap hsep, ih hss]
    rfl

/-- **Splitting undoes joining.**  The pieces of a text put together from items are the items, in
order and up to blanks at their ends. -/
theorem map_trim_pieces {ss : List (List α)} {text : List α} (h : Script sep blank ss text)
    (hss : ∀ s ∈ ss, Item sep blank s) :
    (pieces sep blank text).map (trim blank) = ss.map (trim blank) := by
  obtain ⟨lead, body, trail, hlead, hbody, htrail, rfl⟩ := h
  rw [map_trim_pieces_append hlead, hbody.map_trim_pieces hss htrail]

end SplitJoin
