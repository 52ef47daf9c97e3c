import Carros.Base.JsonText

/-!
# Reading what was printed

`jsonDecode_jsonEncode` proves that reading the printed text of a value gives the value back, but
for an integer that no `int` holds, which comes back as a double (`Dyn.reread`).  The argument
follows the printer: characters of a string (`readString_escapeChar`), digits of a number
(`readNumber_repr`), and then values, lists and maps together (`readValue_print`), each with an
arbitrary rest of the text behind it.  `Follow` says what may stand behind a printed value, and
`need` bounds the fuel its reading takes.  The other way round, `reread_of_jsonDecode` says that a
value that was read holds no such integer.
-/

namespace Dart

/-! ## Strings -/

/-- A hexadecimal digit reads as its value. -/
lemma hexVal_digitChar {n : ℕ} (h : n < 16) : hexVal n.digitChar = some n := by
  have hall : ∀ m ∈ List.range 16, hexVal m.digitChar = some m := by decide
  exact hall n (List.mem_range.mpr h)

/-- The four digits of a control character read as its code. -/
lemma hexUnit_control {n : ℕ} (h : n < 32) :
    hexUnit '0' '0' (n / 16).digitChar (n % 16).digitChar = some n := by
  have hhi : hexVal (n / 16).digitChar = some (n / 16) := hexVal_digitChar (by omega)
  have hlo : hexVal (n % 16).digitChar = some (n % 16) := hexVal_digitChar (by omega)
  have hzero : hexVal '0' = some 0 := by decide
  simp only [hexUnit, hhi, hlo, hzero, Option.bind_eq_bind, Option.bind_some, Option.pure_def]
  congr 1
  omega

/-- The escape of a control character reads as the character. -/
lemma readEscape_control {c : Char} (h : c.toNat < 32) (r : List Char) :
    readEscape ('u' :: '0' :: '0' :: (c.toNat / 16).digitChar :: (c.toNat % 16).digitChar :: r) =
      some (c, r) := by
  have hlt : c.toNat < 0xD800 := by omega
  simp [readEscape, hexUnit_control h, hlt]

/-- Reading one printed character of a string literal. -/
lemma readString_escapeChar (n : ℕ) (c : Char) (r : List Char) :
    readString (n + 1) (escapeChar c ++ r) =
      (readString n r).bind fun p => some (c :: p.1, p.2) := by
  unfold escapeChar
  split_ifs with h₁ h₂ h₃ h₄ h₅ h₆ h₇ h₈
  · subst h₁; rfl
  · subst h₂; rfl
  · subst h₃; rfl
  · subst h₄; rfl
  · subst h₅; rfl
  · subst h₆; rfl
  · subst h₇; rfl
  · simp [readString, readEscape_control h₈]
  · simp [readString, h₁, h₂, h₈]

/-- Reading the printed characters of a string up to the closing quote. -/
lemma readString_flatMap_escapeChar (s r : List Char) {n : ℕ} (hn : s.length < n) :
    readString n (s.flatMap escapeChar ++ '\x22' :: r) = some (s, r) := by
  induction s generalizing n with
  | nil =>
    obtain ⟨m, rfl⟩ : ∃ m, n = m + 1 := ⟨n - 1, by simp at hn; omega⟩
    simp [readString]
  | cons c s ih =>
    obtain ⟨m, rfl⟩ : ∃ m, n = m + 1 := ⟨n - 1, by omega⟩
    have hm : s.length < m := by simpa using hn
    rw [List.flatMap_cons, List.append_assoc, readString_escapeChar, ih hm]
    rfl

/-- An escaped character takes at least one character of text. -/
lemma length_le_length_flatMap_escapeChar (s : List Char) :
    s.length ≤ (s.flatMap escapeChar).length := by
  induction s with
  | nil => simp
  | cons c s ih =>
    have hpos : 1 ≤ (escapeChar c).length := by unfold escapeChar; split_ifs <;> simp
    simp only [List.flatMap_cons, List.length_append, List.length_cons]
    omega

/-- Reading a printed string literal after its opening quote. -/
lemma readString_printString (s : String) (r : List Char) :
    readString ((s.toList.flatMap escapeChar ++ '\x22' :: r).length + 1)
      (s.toList.flatMap escapeChar ++ '\x22' :: r) = some (s.toList, r) := by
  apply readString_flatMap_escapeChar
  have h := length_le_length_flatMap_escapeChar s.toList
  simp only [List.length_append]
  omega

/-! ## Numbers -/

/-- What may follow a printed value: the end of the text, a comma or a closing bracket. -/
def Follow : List Char → Prop
  | [] => True
  | c :: _ => c = ',' ∨ c = ']' ∨ c = '\x7d'

/-- A text that does not go on with a digit. -/
def NoDigit (r : List Char) : Prop := ∀ c t, r = c :: t → c.isDigit = false

/-- What follows a value is not a digit. -/
lemma Follow.noDigit {r : List Char} (h : Follow r) : NoDigit r := by
  rintro c t rfl
  rcases h with rfl | rfl | rfl <;> decide

/-- The digits of a number are read up to the first character that is not one. -/
lemma readDigits_toDigits (n : ℕ) {r : List Char} (h : NoDigit r) :
    readDigits (Nat.toDigits 10 n ++ r) = some (Nat.toDigits 10 n, r) := by
  have hall : ∀ c ∈ Nat.toDigits 10 n, c.isDigit = true := fun c hc =>
    Nat.isDigit_of_mem_toDigits (by decide) (by decide) hc
  have htake : r.takeWhile Char.isDigit = [] := by
    cases r with
    | nil => rfl
    | cons c t => simp [h c t rfl]
  have hdrop : r.dropWhile Char.isDigit = r := by
    cases r with
    | nil => rfl
    | cons c t => simp [h c t rfl]
  obtain ⟨d, ds, hds⟩ := List.exists_cons_of_ne_nil (Nat.toDigits_ne_nil (n := n) (b := 10))
  rw [readDigits, List.takeWhile_append_of_pos hall, List.dropWhile_append_of_pos hall, htake,
    hdrop, List.append_nil, hds]

/-- A number of several digits does not start with a zero. -/
lemma toDigits_head (n : ℕ) :
    (Nat.toDigits 10 n).head? = some '0' → (Nat.toDigits 10 n).length = 1 := by
  induction n using Nat.strongRecOn with
  | _ n ih =>
    rw [Nat.toDigits_eq_if (by decide)]
    split_ifs with hlt
    · simp
    · intro h
      have hne : Nat.toDigits 10 (n / 10) ≠ [] := Nat.toDigits_ne_nil
      rw [List.head?_append_of_ne_nil _ hne] at h
      have hlen := ih (n / 10) (by omega) h
      have hsmall : n / 10 < 10 ^ 1 :=
        (Nat.length_toDigits_le_iff (by decide) (by decide)).mp (le_of_eq hlen)
      rw [Nat.toDigits_of_lt_base (by simpa using hsmall)] at h
      have hzero : n / 10 = 0 := by
        have hall : ∀ m ∈ List.range 10, [m.digitChar].head? = some '0' → m = 0 := by decide
        exact hall _ (List.mem_range.mpr (by simpa using hsmall)) h
      omega

/-- The text of an integer is a sign and the digits of its absolute value. -/
lemma toList_repr_eq (n : Int) :
    n.repr.toList = (if n < 0 then ['-'] else []) ++ Nat.toDigits 10 n.natAbs := by
  cases n with
  | ofNat m => simp [Int.repr]
  | negSucc m => simp [Int.repr, Int.negSucc_lt_zero]

/-- The digits of a number do not start with a minus sign. -/
lemma readMinus_toDigits (n : ℕ) (r : List Char) :
    readMinus (Nat.toDigits 10 n ++ r) = (false, Nat.toDigits 10 n ++ r) := by
  obtain ⟨d, ds, hds⟩ := List.exists_cons_of_ne_nil (Nat.toDigits_ne_nil (n := n) (b := 10))
  have hd : d.isDigit = true :=
    Nat.isDigit_of_mem_toDigits (b := 10) (n := n) (by decide) (by decide) (by simp [hds])
  rw [hds, List.cons_append]
  unfold readMinus
  split
  · simp_all
  · rfl

/-- Reading the sign of a printed integer. -/
lemma readMinus_repr (n : Int) (r : List Char) :
    readMinus (n.repr.toList ++ r) = (decide (n < 0), Nat.toDigits 10 n.natAbs ++ r) := by
  rw [toList_repr_eq]
  by_cases h : n < 0
  · simp [h, readMinus]
  · simp [h, readMinus_toDigits]

/-- A sign and an absolute value make up the integer. -/
lemma signed_natAbs (n : Int) : signed (decide (n < 0)) n.natAbs = n := by
  unfold signed
  split_ifs with h
  · have hneg : n < 0 := by simpa using h
    omega
  · have hpos : ¬ n < 0 := by simpa using h
    omega

/-- A text that goes on with neither a digit, a fraction nor an exponent. -/
lemma Follow.readFraction {r : List Char} (h : Follow r) : readFraction r = some ([], r) := by
  cases r with
  | nil => rfl
  | cons c t => rcases h with rfl | rfl | rfl <;> rfl

/-- What follows a value is not an exponent. -/
lemma Follow.readExponent {r : List Char} (h : Follow r) : readExponent r = some (none, r) := by
  cases r with
  | nil => rfl
  | cons c t => rcases h with rfl | rfl | rfl <;> rfl

/-- A printed integer reads as what its literal stands for. -/
lemma readNumber_repr (n : Int) {r : List Char} (h : Follow r) :
    readNumber (n.repr.toList ++ r) = some (.ofLiteral n, r) := by
  have hhead : ¬((Nat.toDigits 10 n.natAbs).head? = some '0' ∧
      (Nat.toDigits 10 n.natAbs).length ≠ 1) := fun hc => hc.2 (toDigits_head _ hc.1)
  simp only [readNumber, readMinus_repr, readDigits_toDigits _ h.noDigit, h.readFraction,
    h.readExponent, Option.bind_eq_bind, Option.bind_some, if_neg hhead, List.append_nil,
    Option.pure_def, Nat.ofDigitChars_ten_toDigits, signed_natAbs]

/-- Reading the optional sign of a printed integer. -/
lemma readSign_repr (n : Int) (r : List Char) :
    readSign (n.repr.toList ++ r) = (decide (n < 0), Nat.toDigits 10 n.natAbs ++ r) := by
  have hplus : ∀ t, n.repr.toList ++ r ≠ '+' :: t := by
    intro t ht
    obtain ⟨d, ds, hds⟩ :=
      List.exists_cons_of_ne_nil (Nat.toDigits_ne_nil (n := n.natAbs) (b := 10))
    have hd : d.isDigit = true :=
      Nat.isDigit_of_mem_toDigits (b := 10) (n := n.natAbs) (by decide) (by decide) (by simp [hds])
    rw [toList_repr_eq, hds] at ht
    split_ifs at ht
    · simp at ht
    · obtain ⟨rfl, -⟩ := List.cons.inj ht
      exact absurd hd (by decide)
  unfold readSign
  split
  next t ht => exact absurd ht (hplus t)
  next => exact readMinus_repr n r

/-- A printed exponent reads as the exponent. -/
lemma readExponent_repr (e : Int) {r : List Char} (h : Follow r) :
    readExponent ('e' :: (e.repr.toList ++ r)) = some (some e, r) := by
  simp [readExponent, readSign_repr, readDigits_toDigits _ h.noDigit,
    Nat.ofDigitChars_ten_toDigits, signed_natAbs]

/-- A printed double reads as the double. -/
lemma readNumber_double (m e : Int) {r : List Char} (h : Follow r) :
    readNumber (m.repr.toList ++ 'e' :: (e.repr.toList ++ r)) = some (.double m e, r) := by
  have hhead : ¬((Nat.toDigits 10 m.natAbs).head? = some '0' ∧
      (Nat.toDigits 10 m.natAbs).length ≠ 1) := fun hc => hc.2 (toDigits_head _ hc.1)
  have hdig : NoDigit ('e' :: (e.repr.toList ++ r)) := by
    rintro c t ht
    obtain ⟨rfl, -⟩ := List.cons.inj ht
    decide
  have hfrac : readFraction ('e' :: (e.repr.toList ++ r)) =
      some ([], 'e' :: (e.repr.toList ++ r)) := rfl
  simp only [readNumber, readMinus_repr, readDigits_toDigits _ hdig, hfrac,
    readExponent_repr e h, Option.bind_eq_bind, Option.bind_some, if_neg hhead, List.append_nil,
    Option.pure_def, Nat.ofDigitChars_ten_toDigits, signed_natAbs, Option.getD_some,
    List.length_nil, Int.natCast_zero, Int.sub_zero]

/-! ## Values -/

mutual

/-- A value as its text is read back: an integer that no `int` holds comes back as a double. -/
def Dyn.reread : Dyn → Dyn
  | .int n => .ofLiteral n
  | .list xs => .list (rereadList xs)
  | .map m => .map (rereadEntries m)
  | .null => .null
  | .bool b => .bool b
  | .double m e => .double m e
  | .str s => .str s

/-- The elements of a list as they are read back. -/
def rereadList : List Dyn → List Dyn
  | [] => []
  | x :: xs => x.reread :: rereadList xs

/-- The entries of a map as they are read back. -/
def rereadEntries : List (String × Dyn) → List (String × Dyn)
  | [] => []
  | (k, x) :: m => (k, x.reread) :: rereadEntries m

end

/-- The elements of a list are read back one by one. -/
lemma rereadList_eq_map (xs : List Dyn) : rereadList xs = xs.map Dyn.reread := by
  induction xs with
  | nil => rfl
  | cons x xs ih => rw [rereadList, ih, List.map_cons]

/-- The entries of a map are read back one by one. -/
lemma rereadEntries_eq_map (m : DynMap) :
    rereadEntries m = m.map fun e => (e.1, e.2.reread) := by
  induction m with
  | nil => rfl
  | cons e m ih => rw [rereadEntries, ih, List.map_cons]

/-- A list is read back as a list. -/
@[simp] lemma Dyn.reread_list (xs : List Dyn) : (Dyn.list xs).reread = .list (rereadList xs) := rfl

/-- A map is read back as a map. -/
@[simp] lemma Dyn.reread_map (m : DynMap) : (Dyn.map m).reread = .map (rereadEntries m) := rfl

/-- A nullable string is read back as it was. -/
@[simp] lemma Dyn.reread_ofString (s : Option String) :
    (Dyn.ofString s).reread = .ofString s := by
  cases s <;> rfl

/-- A nullable integer is read back as one exactly if an `int` holds it, and as it was. -/
lemma Dyn.reread_ofInt {n m : Option Int} :
    (Dyn.ofInt n).reread = .ofInt m ↔ m = n ∧ ∀ i, n = some i → IsInt64 i := by
  cases n with
  | none => cases m <;> simp [Dyn.ofInt, Dyn.reread]
  | some i =>
    have hi : (Dyn.ofInt (some i)).reread = .ofLiteral i := rfl
    rw [hi, Dyn.ofLiteral_eq_ofInt, and_comm]
    simp

/-- The downcast to `String` does the same after reading back. -/
@[simp] lemma Dyn.asString_reread (d : Dyn) : d.reread.asString = d.asString := by
  cases d with
  | int n =>
    rw [Dyn.reread, Dyn.ofLiteral]
    split_ifs <;> rfl
  | _ => rfl

/-- A value that is used as a map is one after reading back, with its entries read back. -/
lemma Dyn.asMap_reread (d : Dyn) : d.reread.asMap = d.asMap.map rereadEntries := by
  cases d with
  | int n =>
    rw [Dyn.reread, Dyn.ofLiteral]
    split_ifs <;> rfl
  | _ => rfl

/-- What stands under a key is read back by itself. -/
lemma get_rereadEntries (m : DynMap) (k : String) :
    DynMap.get (rereadEntries m) k = (m.get k).reread := by
  have hlookup : ∀ m : DynMap, (m.map fun e => (e.1, e.2.reread)).lookup k =
      (m.lookup k).map Dyn.reread := by
    intro m
    induction m with
    | nil => rfl
    | cons e m ih =>
      rw [List.map_cons, List.lookup_cons, List.lookup_cons, ih]
      cases k == e.1 <;> rfl
  rw [rereadEntries_eq_map, DynMap.get, DynMap.get, ← List.map_reverse, hlookup]
  cases m.reverse.lookup k <;> rfl

mutual

/-- The fuel the printed text of a value takes. -/
def need : Dyn → ℕ
  | .list xs => needList xs + 1
  | .map m => needEntries m + 1
  | _ => 1

/-- The fuel the printed elements of a list take. -/
def needList : List Dyn → ℕ
  | [] => 0
  | x :: xs => need x + needList xs + 1

/-- The fuel the printed entries of a map take. -/
def needEntries : List (String × Dyn) → ℕ
  | [] => 0
  | (_, x) :: m => need x + needEntries m + 1

end

mutual

/-- The text of a value is long enough to provide the fuel. -/
lemma need_lt : ∀ d : Dyn, need d + 1 ≤ 2 * (print d).length
  | .null => by simp [need, print]
  | .bool true => by simp [need, print]
  | .bool false => by simp [need, print]
  | .int n => by
    have hpos : 0 < (Nat.toDigits 10 n.natAbs).length := Nat.length_toDigits_pos
    simp only [need, print, toList_repr_eq, List.length_append]
    omega
  | .double m e => by
    simp only [need, print, List.length_append, List.length_cons]
    omega
  | .str s => by
    simp only [need, print, printString, List.length_cons]
    omega
  | .list xs => by
    have h := needList_le xs
    simp only [need, print, List.length_cons, List.length_append]
    omega
  | .map m => by
    have h := needEntries_le m
    simp only [need, print, List.length_cons, List.length_append]
    omega

/-- The text of the elements of a list is long enough to provide the fuel. -/
lemma needList_le : ∀ xs : List Dyn, needList xs ≤ 2 * (printList xs).length
  | [] => by simp [needList]
  | [x] => by
    have h := need_lt x
    simp only [needList, printList]
    omega
  | x :: y :: xs => by
    have h := need_lt x
    have ih := needList_le (y :: xs)
    rw [needList, printList]
    simp only [List.length_append, List.length_cons]
    omega

/-- The text of the entries of a map is long enough to provide the fuel. -/
lemma needEntries_le : ∀ m : List (String × Dyn), needEntries m ≤ 2 * (printEntries m).length
  | [] => by simp [needEntries]
  | [(k, x)] => by
    have h := need_lt x
    simp only [needEntries, printEntries, List.length_append, List.length_cons]
    omega
  | (k, x) :: y :: m => by
    have h := need_lt x
    have ih := needEntries_le (y :: m)
    rw [needEntries, printEntries]
    simp only [List.length_append, List.length_cons]
    omega

end

/-- A character a number can start with: a minus sign or a digit. -/
def StartsNumber (c : Char) : Prop := c = '-' ∨ c.isDigit = true

/-- A number starts with none of the characters that start something else. -/
lemma StartsNumber.ne {c : Char} (h : StartsNumber c) :
    c ≠ 'n' ∧ c ≠ 't' ∧ c ≠ 'f' ∧ c ≠ '\x22' ∧ c ≠ '[' ∧ c ≠ ']' ∧ c ≠ '\x7b' ∧
      isWs c = false := by
  refine ⟨?_, ?_, ?_, ?_, ?_, ?_, ?_, ?_⟩
  case refine_8 =>
    by_contra hws
    simp only [isWs, Bool.not_eq_false, Bool.or_eq_true, decide_eq_true_eq] at hws
    rcases hws with ((rfl | rfl) | rfl) | rfl <;> revert h <;> simp [StartsNumber]
  all_goals rintro rfl; revert h; simp [StartsNumber]

/-- The text of an integer starts like a number. -/
lemma repr_eq_cons (n : Int) : ∃ c t, n.repr.toList = c :: t ∧ StartsNumber c := by
  rw [toList_repr_eq]
  split_ifs
  · exact ⟨_, _, rfl, Or.inl rfl⟩
  · obtain ⟨d, ds, hds⟩ :=
      List.exists_cons_of_ne_nil (Nat.toDigits_ne_nil (n := n.natAbs) (b := 10))
    refine ⟨d, ds, by simpa using hds, Or.inr ?_⟩
    exact Nat.isDigit_of_mem_toDigits (b := 10) (n := n.natAbs) (by decide) (by decide)
      (by simp [hds])

/-- The first character of a printed value: not white space and not a closing bracket. -/
lemma print_eq_cons (d : Dyn) :
    ∃ c t, print d = c :: t ∧ isWs c = false ∧ c ≠ ']' := by
  cases d with
  | null => exact ⟨_, _, rfl, by decide, by decide⟩
  | bool b => cases b <;> exact ⟨_, _, rfl, by decide, by decide⟩
  | str s => exact ⟨_, _, rfl, by decide, by decide⟩
  | list xs => exact ⟨_, _, rfl, by decide, by decide⟩
  | map m => exact ⟨_, _, rfl, by decide, by decide⟩
  | int n =>
    obtain ⟨c, t, ht, hc⟩ := repr_eq_cons n
    obtain ⟨-, -, -, -, -, hb, -, hws⟩ := hc.ne
    exact ⟨c, t, ht, hws, hb⟩
  | double m e =>
    obtain ⟨c, t, ht, hc⟩ := repr_eq_cons m
    obtain ⟨-, -, -, -, -, hb, -, hws⟩ := hc.ne
    exact ⟨c, t ++ 'e' :: e.repr.toList, by simp [print, ht], hws, hb⟩

/-- White space is skipped up to the first other character. -/
lemma skipWs_cons {c : Char} (h : isWs c = false) (t : List Char) : skipWs (c :: t) = c :: t := by
  simp [skipWs, h]

/-- A text that starts like a number is read as one. -/
lemma readValue_startsNumber {c : Char} (h : StartsNumber c) (n : ℕ) (t : List Char) :
    readValue (n + 1) (c :: t) = readNumber (c :: t) := by
  obtain ⟨hn, ht, hf, hq, hb, -, hbr, hws⟩ := h.ne
  rw [readValue, skipWs_cons hws]
  split <;> simp_all

/-- The text of a map entry starts with the quote of its key. -/
lemma printEntries_cons (k : String) (x : Dyn) (m : List (String × Dyn)) :
    ∃ t, printEntries ((k, x) :: m) = '\x22' :: t := by
  cases m with
  | nil => exact ⟨_, rfl⟩
  | cons y m => exact ⟨_, rfl⟩

mutual

/-- Reading a printed value, whatever may follow it. -/
lemma readValue_print : ∀ (d : Dyn) (n : ℕ) (r : List Char), need d ≤ n → Follow r →
    readValue n (print d ++ r) = some (d.reread, r)
  | .null, n + 1, r, _, _ => by simp [print, readValue, skipWs, isWs, Dyn.reread]
  | .bool true, n + 1, r, _, _ => by simp [print, readValue, skipWs, isWs, Dyn.reread]
  | .bool false, n + 1, r, _, _ => by simp [print, readValue, skipWs, isWs, Dyn.reread]
  | .int k, n + 1, r, _, hr => by
    obtain ⟨c, t, ht, hc⟩ := repr_eq_cons k
    have h := readNumber_repr k hr
    rw [print]
    rw [ht, List.cons_append] at h ⊢
    rw [readValue_startsNumber hc, h, Dyn.reread]
  | .double k e, n + 1, r, _, hr => by
    obtain ⟨c, t, ht, hc⟩ := repr_eq_cons k
    have h := readNumber_double k e hr
    rw [print, List.append_assoc, List.cons_append]
    rw [ht, List.cons_append] at h ⊢
    rw [readValue_startsNumber hc, h, Dyn.reread]
  | .str s, n + 1, r, _, _ => by
    have h := readString_printString s r
    rw [print, printString, List.cons_append, List.append_assoc, List.singleton_append, readValue,
      skipWs_cons (by decide)]
    simp only [h, Option.bind_eq_bind, Option.bind_some, String.ofList_toList, Option.pure_def,
      Dyn.reread]
  | .list [], n + 1, r, _, _ => by
    simp [print, printList, readValue, skipWs, isWs, rereadList]
  | .list (x :: xs), n + 1, r, hn, _ => by
    have h := readList_print x xs n r (by simp only [need, needList] at hn ⊢; omega)
    obtain ⟨c, t, ht, hws, hb⟩ := print_eq_cons x
    obtain ⟨t', ht'⟩ : ∃ t', printList (x :: xs) = c :: t' := by
      cases xs with
      | nil => exact ⟨t, ht⟩
      | cons y xs => exact ⟨_, by rw [printList, ht]; rfl⟩
    rw [print, List.cons_append, List.append_assoc, List.singleton_append, readValue,
      skipWs_cons (by decide)]
    rw [ht', List.cons_append] at h ⊢
    simp only [skipWs_cons hws]
    split
    next heq => exact absurd (List.cons.inj heq).1 hb
    next => simp [h]
  | .map [], n + 1, r, _, _ => by
    simp [print, printEntries, readValue, skipWs, isWs, rereadEntries]
  | .map ((k, x) :: m), n + 1, r, hn, _ => by
    have h := readEntries_print k x m n r (by simp only [need, needEntries] at hn ⊢; omega)
    obtain ⟨t, ht⟩ := printEntries_cons k x m
    rw [print, List.cons_append, List.append_assoc, List.singleton_append, readValue,
      skipWs_cons (by decide)]
    rw [ht, List.cons_append] at h ⊢
    simp only [skipWs_cons (show isWs '\x22' = false by decide)]
    simp [h]
  | .null, 0, _, hn, _ | .bool _, 0, _, hn, _ | .int _, 0, _, hn, _ | .double _ _, 0, _, hn, _
  | .str _, 0, _, hn, _ | .list _, 0, _, hn, _ | .map _, 0, _, hn, _ => by simp [need] at hn

/-- Reading the printed elements of a list up to the closing bracket. -/
lemma readList_print : ∀ (x : Dyn) (xs : List Dyn) (n : ℕ) (r : List Char),
    needList (x :: xs) ≤ n →
      readList n (printList (x :: xs) ++ ']' :: r) = some (rereadList (x :: xs), r)
  | x, [], n + 1, r, hn => by
    have h := readValue_print x n (']' :: r) (by simp only [needList] at hn; omega)
      (Or.inr (Or.inl rfl))
    rw [printList, readList, h]
    simp [skipWs, isWs, rereadList]
  | x, y :: xs, n + 1, r, hn => by
    have h := readValue_print x n (',' :: (printList (y :: xs) ++ ']' :: r))
      (by rw [needList] at hn; omega) (Or.inl rfl)
    have ih := readList_print y xs n r (by rw [needList] at hn; omega)
    rw [printList, List.append_assoc, List.cons_append, readList, h]
    simp [skipWs, isWs, ih, rereadList]
  | _, _, 0, _, hn => by simp [needList] at hn

/-- Reading the printed entries of a map up to the closing brace. -/
lemma readEntries_print : ∀ (k : String) (x : Dyn) (m : List (String × Dyn)) (n : ℕ)
    (r : List Char), needEntries ((k, x) :: m) ≤ n →
      readEntries n (printEntries ((k, x) :: m) ++ '\x7d' :: r) =
        some (rereadEntries ((k, x) :: m), r)
  | k, x, [], n + 1, r, hn => by
    have h := readValue_print x n ('\x7d' :: r) (by simp only [needEntries] at hn; omega)
      (Or.inr (Or.inr rfl))
    have hk := readString_printString k (':' :: (print x ++ '\x7d' :: r))
    rw [printEntries, printString, List.cons_append, List.cons_append, List.append_assoc,
      List.append_assoc, List.singleton_append, List.cons_append, readEntries,
      skipWs_cons (by decide)]
    simp only [hk, Option.bind_eq_bind, Option.bind_some]
    simp [skipWs, isWs, h, rereadEntries]
  | k, x, (k', y) :: m, n + 1, r, hn => by
    have h := readValue_print x n (',' :: (printEntries ((k', y) :: m) ++ '\x7d' :: r))
      (by rw [needEntries] at hn; omega) (Or.inl rfl)
    have ih := readEntries_print k' y m n r (by rw [needEntries] at hn; omega)
    have hk := readString_printString k
      (':' :: (print x ++ ',' :: (printEntries ((k', y) :: m) ++ '\x7d' :: r)))
    rw [printEntries, printString, List.cons_append, List.cons_append, List.append_assoc,
      List.append_assoc, List.singleton_append, List.cons_append, List.append_assoc,
      List.cons_append, readEntries, skipWs_cons (by decide)]
    simp only [hk, Option.bind_eq_bind, Option.bind_some]
    simp [skipWs, isWs, h, ih, rereadEntries]
  | _, _, _, 0, _, hn => by simp [needEntries] at hn

end

/-- **Reading what was printed**: the text of a value gives the value back, but for integers that no
`int` holds. -/
theorem jsonDecode_jsonEncode (d : Dyn) : jsonDecode (jsonEncode d) = some d.reread := by
  have hfuel : need d ≤ 2 * (print d).length + 1 := by
    have h := need_lt d
    omega
  have h := readValue_print d _ [] hfuel trivial
  rw [List.append_nil] at h
  simp [jsonDecode, jsonEncode, h, skipWs]

/-- What an integer literal stands for is read back as it was. -/
@[simp] lemma Dyn.reread_ofLiteral (n : Int) : (Dyn.ofLiteral n).reread = .ofLiteral n := by
  unfold Dyn.ofLiteral
  split_ifs with h
  · exact if_pos h
  · rfl

/-- A number that was read is read back as it was. -/
lemma reread_of_readNumber {cs r : List Char} {d : Dyn} (h : readNumber cs = some (d, r)) :
    d.reread = d := by
  unfold readNumber at h
  simp only [Option.bind_eq_bind, Option.bind_eq_some_iff, Option.pure_def] at h
  obtain ⟨⟨ds, r₁⟩, -, h⟩ := h
  split at h
  · simp at h
  · simp only [Option.bind_eq_some_iff] at h
    obtain ⟨⟨fs, r₂⟩, -, ⟨ex, r₃⟩, -, h⟩ := h
    split at h
    · obtain ⟨rfl, -⟩ := Prod.mk.inj (Option.some.inj h)
      exact Dyn.reread_ofLiteral _
    · obtain ⟨rfl, -⟩ := Prod.mk.inj (Option.some.inj h)
      rfl

/-- A value that was read is read back as it was, if its elements and entries are. -/
lemma reread_of_readValue_succ {n : ℕ} {cs r : List Char} {d : Dyn}
    (hlist : ∀ cs xs r, readList n cs = some (xs, r) → rereadList xs = xs)
    (hentries : ∀ cs m r, readEntries n cs = some (m, r) → rereadEntries m = m)
    (h : readValue (n + 1) cs = some (d, r)) : d.reread = d := by
  rw [readValue] at h
  split at h
  case h_1 => obtain ⟨rfl, -⟩ := Prod.mk.inj (Option.some.inj h); rfl
  case h_2 => obtain ⟨rfl, -⟩ := Prod.mk.inj (Option.some.inj h); rfl
  case h_3 => obtain ⟨rfl, -⟩ := Prod.mk.inj (Option.some.inj h); rfl
  case h_4 =>
    simp only [Option.bind_eq_bind, Option.bind_eq_some_iff, Option.pure_def] at h
    obtain ⟨⟨s, r₁⟩, -, h⟩ := h
    obtain ⟨rfl, -⟩ := Prod.mk.inj (Option.some.inj h)
    rfl
  case h_5 =>
    split at h
    · obtain ⟨rfl, -⟩ := Prod.mk.inj (Option.some.inj h)
      rfl
    · simp only [Option.bind_eq_bind, Option.bind_eq_some_iff, Option.pure_def] at h
      obtain ⟨⟨xs, r₂⟩, hxs, h⟩ := h
      obtain ⟨rfl, -⟩ := Prod.mk.inj (Option.some.inj h)
      rw [Dyn.reread_list, hlist _ _ _ hxs]
  case h_6 =>
    split at h
    · obtain ⟨rfl, -⟩ := Prod.mk.inj (Option.some.inj h)
      rfl
    · simp only [Option.bind_eq_bind, Option.bind_eq_some_iff, Option.pure_def] at h
      obtain ⟨⟨m, r₂⟩, hm, h⟩ := h
      obtain ⟨rfl, -⟩ := Prod.mk.inj (Option.some.inj h)
      rw [Dyn.reread_map, hentries _ _ _ hm]
  case h_7 => exact reread_of_readNumber h

/-- The elements of a list that was read are read back as they were. -/
lemma reread_of_readList_succ {n : ℕ} {cs r : List Char} {xs : List Dyn}
    (hvalue : ∀ cs d r, readValue n cs = some (d, r) → d.reread = d)
    (hlist : ∀ cs xs r, readList n cs = some (xs, r) → rereadList xs = xs)
    (h : readList (n + 1) cs = some (xs, r)) : rereadList xs = xs := by
  rw [readList] at h
  simp only [Option.bind_eq_bind, Option.bind_eq_some_iff, Option.pure_def] at h
  obtain ⟨⟨x, r₁⟩, hx, h⟩ := h
  split at h
  · simp only [Option.bind_eq_some_iff] at h
    obtain ⟨⟨xs', r₂⟩, hxs, h⟩ := h
    obtain ⟨rfl, -⟩ := Prod.mk.inj (Option.some.inj h)
    rw [rereadList, hvalue _ _ _ hx, hlist _ _ _ hxs]
  · obtain ⟨rfl, -⟩ := Prod.mk.inj (Option.some.inj h)
    rw [rereadList, hvalue _ _ _ hx, rereadList]
  · cases h

/-- The entries of a map that was read are read back as they were. -/
lemma reread_of_readEntries_succ {n : ℕ} {cs r : List Char} {m : DynMap}
    (hvalue : ∀ cs d r, readValue n cs = some (d, r) → d.reread = d)
    (hentries : ∀ cs m r, readEntries n cs = some (m, r) → rereadEntries m = m)
    (h : readEntries (n + 1) cs = some (m, r)) : rereadEntries m = m := by
  rw [readEntries] at h
  split at h
  · simp only [Option.bind_eq_bind, Option.bind_eq_some_iff, Option.pure_def] at h
    obtain ⟨⟨k, r₁⟩, -, h⟩ := h
    split at h
    · simp only [Option.bind_eq_some_iff] at h
      obtain ⟨⟨x, r₃⟩, hx, h⟩ := h
      split at h
      · simp only [Option.bind_eq_some_iff] at h
        obtain ⟨⟨m', r₅⟩, hm, h⟩ := h
        obtain ⟨rfl, -⟩ := Prod.mk.inj (Option.some.inj h)
        rw [rereadEntries, hvalue _ _ _ hx, hentries _ _ _ hm]
      · obtain ⟨rfl, -⟩ := Prod.mk.inj (Option.some.inj h)
        rw [rereadEntries, hvalue _ _ _ hx, rereadEntries]
      · cases h
    · cases h
  · cases h

/-- Values, lists and maps that were read are read back as they were, by induction on the fuel. -/
lemma reread_of_readValue (n : ℕ) :
    (∀ cs d r, readValue n cs = some (d, r) → d.reread = d) ∧
      (∀ cs xs r, readList n cs = some (xs, r) → rereadList xs = xs) ∧
      ∀ cs m r, readEntries n cs = some (m, r) → rereadEntries m = m := by
  induction n with
  | zero =>
    refine ⟨fun cs d r h => ?_, fun cs xs r h => ?_, fun cs m r h => ?_⟩
    · simp [readValue] at h
    · simp [readList] at h
    · simp [readEntries] at h
  | succ n ih =>
    obtain ⟨hvalue, hlist, hentries⟩ := ih
    exact ⟨fun _ _ _ => reread_of_readValue_succ hlist hentries,
      fun _ _ _ => reread_of_readList_succ hvalue hlist,
      fun _ _ _ => reread_of_readEntries_succ hvalue hentries⟩

/-- **Every value that is read holds only integers that an `int` holds**: it is read back as it
was. -/
theorem reread_of_jsonDecode {text : String} {d : Dyn} (h : jsonDecode text = some d) :
    d.reread = d := by
  unfold jsonDecode at h
  dsimp only at h
  split at h
  · rename_i d' r hread
    obtain ⟨-, h⟩ := Option.ite_none_right_eq_some.mp h
    obtain rfl := Option.some.inj h
    exact (reread_of_readValue _).1 _ _ _ hread
  · cases h

/-- An integer under a key of a map that was read is one an `int` holds. -/
lemma isInt64_of_jsonDecode {text k : String} {m : DynMap} {n : Option Int}
    (h : jsonDecode text = some (.map m)) (hk : m.get k = .ofInt n) :
    ∀ i, n = some i → IsInt64 i := by
  have hm : rereadEntries m = m := Dyn.map.inj (reread_of_jsonDecode h)
  have hget := get_rereadEntries m k
  rw [hm, hk] at hget
  exact (Dyn.reread_ofInt.mp hget.symm).2

/-- A printed value is never the empty text. -/
theorem jsonEncode_ne_empty (d : Dyn) : jsonEncode d ≠ "" := by
  intro h
  obtain ⟨c, t, ht, -⟩ := print_eq_cons d
  rw [jsonEncode, ht] at h
  simpa using congrArg String.toList h

/-- Two integers with the same decimal text are equal. -/
theorem repr_injective {m n : Int} (h : m.repr = n.repr) : m = n := by
  have hm := readMinus_repr m []
  rw [h, readMinus_repr n [], List.append_nil, List.append_nil] at hm
  obtain ⟨hsign, hdigits⟩ := Prod.mk.inj hm
  have habs : n.natAbs = m.natAbs := by
    rw [← Nat.ofDigitChars_ten_toDigits (n := n.natAbs), hdigits, Nat.ofDigitChars_ten_toDigits]
  rw [← signed_natAbs m, ← signed_natAbs n, hsign, habs]

/-- No integer is written `null`. -/
theorem repr_ne_null (n : Int) : n.repr ≠ "null" := by
  intro h
  obtain ⟨c, t, ht, hc⟩ := repr_eq_cons n
  have hn : c = 'n' := by
    rw [h] at ht
    exact (List.cons.inj ht).1.symm
  exact hc.ne.1 hn

/-- The text of a nullable integer in a string interpolation determines it. -/
theorem interpolate_injective : Function.Injective interpolate := by
  intro m n h
  cases m with
  | none =>
    cases n with
    | none => rfl
    | some n => exact absurd h.symm (repr_ne_null n)
  | some m =>
    cases n with
    | none => exact absurd h (repr_ne_null m)
    | some n => exact congrArg some (repr_injective h)

end Dart
