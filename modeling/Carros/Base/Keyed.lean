import Mathlib.Data.List.AList
import Mathlib.Data.List.Perm.Subperm

/-!
# Finite maps and their sizes

Facts about `AList`, the finite maps of Mathlib, that its own file does not have: how the number
of keys changes with the operations, what an inserted or erased key does to the entries, and when a
map extends another.
-/

namespace AList

variable {κ : Type*} {β : κ → Type*}

/-- A map whose keys all occur in another has at most as many keys. -/
lemma length_keys_le_of_forall_mem {s t : AList β} (h : ∀ k ∈ s, k ∈ t) :
    s.keys.length ≤ t.keys.length :=
  (List.subperm_of_subset s.keys_nodup fun k hk => mem_keys.mp (h k (mem_keys.mpr hk))).length_le

/-- Two maps with the same keys have the same number of keys. -/
lemma length_keys_eq_of_forall_mem_iff {s t : AList β} (h : ∀ k, k ∈ s ↔ k ∈ t) :
    s.keys.length = t.keys.length :=
  le_antisymm (length_keys_le_of_forall_mem fun k => (h k).mp)
    (length_keys_le_of_forall_mem fun k => (h k).mpr)

variable [DecidableEq κ]

/-- A new key is one key more. -/
lemma length_keys_insert_of_notMem {k : κ} (b : β k) {s : AList β} (h : k ∉ s) :
    (s.insert k b).keys.length = s.keys.length + 1 := by
  rw [keys_insert, List.erase_of_not_mem (mt mem_keys.mpr h), List.length_cons]

/-- An insertion makes at most one key more. -/
lemma length_keys_insert_le (k : κ) (b : β k) (s : AList β) :
    (s.insert k b).keys.length ≤ s.keys.length + 1 := by
  rw [keys_insert, List.length_cons]
  exact Nat.succ_le_succ List.length_erase_le

/-- Erasing a key that is there leaves fewer keys. -/
lemma length_keys_erase_lt {k : κ} {s : AList β} (h : k ∈ s) :
    (s.erase k).keys.length < s.keys.length := by
  have hpos : 0 < s.keys.length := List.length_pos_of_mem (mem_keys.mp h)
  rw [keys_erase, List.length_erase_of_mem (mem_keys.mp h)]
  omega

/-- Two maps that agree at every key have the same keys. -/
lemma mem_iff_of_lookup_eq {s t : AList β} (h : ∀ k, s.lookup k = t.lookup k) (k : κ) :
    k ∈ s ↔ k ∈ t := by
  rw [← lookup_isSome, ← lookup_isSome, h]

/-- Erasing a key whose entry a filter drops does not change what the filter keeps. -/
lemma filter_entries_erase {k : κ} {s : AList β} {p : Sigma β → Bool}
    (h : ∀ b, s.lookup k = some b → p ⟨k, b⟩ = false) :
    (s.erase k).entries.filter p = s.entries.filter p := by
  have hmem : ∀ e ∈ s.entries, e.1 = k → p e = false := by
    rintro ⟨k', b⟩ he rfl
    exact h b (mem_lookup_iff.mpr he)
  change (List.kerase k s.entries).filter p = s.entries.filter p
  generalize s.entries = l at hmem
  induction l with
  | nil => rfl
  | cons e l ih =>
    obtain ⟨he, hl⟩ := List.forall_mem_cons.mp hmem
    by_cases hk : k = e.1
    · rw [List.kerase_cons_eq hk, List.filter_cons_of_neg (by simp [he hk.symm])]
    · rw [List.kerase_cons_ne hk, List.filter_cons, List.filter_cons, ih hl]

/-- Inserting an entry a filter drops, over one it drops as well, does not change what the filter
keeps. -/
lemma filter_entries_insert {k : κ} {b : β k} {s : AList β} {p : Sigma β → Bool}
    (hb : p ⟨k, b⟩ = false) (h : ∀ b, s.lookup k = some b → p ⟨k, b⟩ = false) :
    (s.insert k b).entries.filter p = s.entries.filter p := by
  change (List.kinsert k b s.entries).filter p = s.entries.filter p
  rw [List.kinsert_def, List.filter_cons_of_neg (by simp [hb])]
  exact filter_entries_erase h

/-! ## Extensions -/

/-- The second map has all the entries of the first. -/
def Extends (s t : AList β) : Prop := ∀ k b, s.lookup k = some b → t.lookup k = some b

/-- A map has its own entries. -/
lemma Extends.refl (s : AList β) : s.Extends s := fun _ _ h => h

/-- What has the entries of an extension has those of the map. -/
lemma Extends.trans {s t u : AList β} (hst : s.Extends t) (htu : t.Extends u) : s.Extends u :=
  fun k b h => htu k b (hst k b h)

/-- A new key takes no entry away. -/
lemma extends_insert {k : κ} {s : AList β} (h : k ∉ s) (b : β k) : s.Extends (s.insert k b) := by
  intro k' b' hk'
  have hne : k' ≠ k := by
    rintro rfl
    exact h (lookup_isSome.mp (by rw [hk']; rfl))
  rwa [lookup_insert_ne hne]

end AList
