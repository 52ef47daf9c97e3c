import Mathlib.Data.List.AList

/-!
# Dynamic values

The values a `dynamic` variable holds in a Dart program that talks JSON: `null`, booleans,
integers, doubles, strings, lists and string-keyed maps, together with the errors such a program
can catch and the checked downcasts `int x = d` and `String s = d`.

A map keeps its entries in insertion order.  When a key occurs twice the later entry wins, as it
does for the map `json.decode` builds.  A double is kept as a decimal `mant * 10 ^ expo`; doubles
are never compared here, only told apart from integers.  An `int` has 64 bits; `IsInt64` says which
integers it holds.
-/

namespace Dart

/-- The errors a program can catch, by their class. -/
inductive DartError where
  /-- A value of the wrong type was assigned or cast. -/
  | typeError
  /-- A member was called on `null`, or on an object without it. -/
  | noSuchMethod
  /-- A condition was `null`. -/
  | assertionError
  /-- A text is not JSON. -/
  | formatException
  /-- An event was added to a closed stream controller. -/
  | badState
  /-- A call never got an answer from the other side. -/
  | transport
  /-- The database refused a statement. -/
  | database
  deriving DecidableEq, Repr

/-- A computation that did not throw goes on with its value. -/
@[simp] lemma ok_bind {α β : Type} (a : α) (f : α → Except DartError β) :
    (Except.ok a >>= f) = f a := rfl

/-- A computation that threw stops there. -/
@[simp] lemma error_bind {α β : Type} (e : DartError) (f : α → Except DartError β) :
    ((Except.error e : Except DartError α) >>= f) = .error e := rfl

/-- A sequence that returns ran both its parts. -/
lemma bind_eq_ok {α β : Type} {x : Except DartError α} {f : α → Except DartError β} {b : β} :
    (x >>= f) = .ok b ↔ ∃ a, x = .ok a ∧ f a = .ok b := by
  cases x with
  | error e => simp
  | ok a => simp

/-- A function applied to the value of a sequence is applied in its second part. -/
lemma map_bind {α β γ : Type} (x : Except DartError α) (f : α → Except DartError β) (g : β → γ) :
    (x >>= f).map g = x >>= fun a => (f a).map g := by
  cases x <;> rfl

/-- What a loop over a list returns comes from elements of the list. -/
lemma exists_of_mapM_eq_ok {α β : Type} {f : α → Except DartError β} {as : List α} {bs : List β}
    (h : as.mapM f = .ok bs) {b : β} (hb : b ∈ bs) : ∃ a ∈ as, f a = .ok b := by
  induction as generalizing bs with
  | nil =>
    obtain rfl := Except.ok.inj h
    exact absurd hb List.not_mem_nil
  | cons a as ih =>
    rw [List.mapM_cons] at h
    obtain ⟨b', hb', h⟩ := bind_eq_ok.mp h
    obtain ⟨bs', hbs', h⟩ := bind_eq_ok.mp h
    obtain rfl := Except.ok.inj h
    rcases List.mem_cons.mp hb with rfl | hb
    · exact ⟨a, List.mem_cons_self, hb'⟩
    · obtain ⟨a', ha', hf⟩ := ih hbs' hb
      exact ⟨a', List.mem_cons_of_mem a ha', hf⟩

/-- A loop over a list returns exactly if its body does for every element. -/
lemma exists_mapM_eq_ok_iff {α β : Type} {f : α → Except DartError β} {as : List α} :
    (∃ bs, as.mapM f = .ok bs) ↔ ∀ a ∈ as, ∃ b, f a = .ok b := by
  induction as with
  | nil => exact ⟨fun _ a ha => absurd ha List.not_mem_nil, fun _ => ⟨[], rfl⟩⟩
  | cons a as ih =>
    rw [List.forall_mem_cons, ← ih, List.mapM_cons]
    constructor
    · rintro ⟨bs, h⟩
      obtain ⟨b, hb, h⟩ := bind_eq_ok.mp h
      obtain ⟨bs', hbs', -⟩ := bind_eq_ok.mp h
      exact ⟨⟨b, hb⟩, bs', hbs'⟩
    · rintro ⟨⟨b, hb⟩, bs, hbs⟩
      exact ⟨b :: bs, by rw [hb, hbs]; rfl⟩

/-- A loop returns a value for every element. -/
lemma length_of_mapM_eq_ok {α β : Type} {f : α → Except DartError β} {as : List α} {bs : List β}
    (h : as.mapM f = .ok bs) : bs.length = as.length := by
  induction as generalizing bs with
  | nil =>
    obtain rfl := Except.ok.inj h
    rfl
  | cons a as ih =>
    rw [List.mapM_cons] at h
    obtain ⟨b, -, h⟩ := bind_eq_ok.mp h
    obtain ⟨bs', hbs', h⟩ := bind_eq_ok.mp h
    obtain rfl := Except.ok.inj h
    rw [List.length_cons, List.length_cons, ih hbs']

/-- A dynamic value. -/
inductive Dyn where
  | null
  | bool (b : Bool)
  | int (n : Int)
  | double (mant expo : Int)
  | str (s : String)
  | list (xs : List Dyn)
  | map (m : List (String × Dyn))

/-- A string-keyed map, as its entries in insertion order. -/
abbrev DynMap := List (String × Dyn)

/-- `m[k]`: the value of the last entry for `k`, `null` if there is none. -/
def DynMap.get (m : DynMap) (k : String) : Dyn := (m.reverse.lookup k).getD .null

/-- `int x = d`: integers and `null` pass, everything else is a type error. -/
def Dyn.asInt : Dyn → Except DartError (Option Int)
  | .null => .ok none
  | .int n => .ok (some n)
  | _ => .error .typeError

/-- `String s = d`: strings and `null` pass, everything else is a type error. -/
def Dyn.asString : Dyn → Except DartError (Option String)
  | .null => .ok none
  | .str s => .ok (some s)
  | _ => .error .typeError

/-- `Map m = d` followed by a use of `m`: `null` passes the assignment and fails at the use. -/
def Dyn.asMap : Dyn → Except DartError DynMap
  | .map m => .ok m
  | .null => .error .noSuchMethod
  | _ => .error .typeError

/-- `List l = d` followed by a use of `l`. -/
def Dyn.asList : Dyn → Except DartError (List Dyn)
  | .list xs => .ok xs
  | .null => .error .noSuchMethod
  | _ => .error .typeError

/-- A nullable integer as a dynamic value. -/
def Dyn.ofInt : Option Int → Dyn
  | none => .null
  | some n => .int n

/-- A nullable string as a dynamic value. -/
def Dyn.ofString : Option String → Dyn
  | none => .null
  | some s => .str s

/-- The integers of 64 bits, which are those an `int` holds. -/
def IsInt64 (n : Int) : Prop := -9223372036854775808 ≤ n ∧ n ≤ 9223372036854775807

instance : DecidablePred IsInt64 := fun n =>
  inferInstanceAs (Decidable (-9223372036854775808 ≤ n ∧ n ≤ 9223372036854775807))

/-- What an integer literal stands for: an integer, or a double if no `int` holds it. -/
def Dyn.ofLiteral (n : Int) : Dyn := if IsInt64 n then .int n else .double n 0

/-- The value of a nullable integer is `null` only for `null`. -/
lemma Dyn.ofInt_eq_null {n : Option Int} : Dyn.ofInt n = .null ↔ n = none := by
  cases n <;> simp [Dyn.ofInt]

/-- The value of a nullable string is `null` only for `null`. -/
lemma Dyn.ofString_eq_null {s : Option String} : Dyn.ofString s = .null ↔ s = none := by
  cases s <;> simp [Dyn.ofString]

/-- An integer literal stands for an integer exactly if an `int` holds it. -/
lemma Dyn.ofLiteral_eq_ofInt {n : Int} {m : Option Int} :
    Dyn.ofLiteral n = .ofInt m ↔ IsInt64 n ∧ m = some n := by
  unfold Dyn.ofLiteral
  split_ifs with h
  · cases m <;> simp [Dyn.ofInt, h, eq_comm]
  · cases m <;> simp [Dyn.ofInt, h]

/-- Reading back a nullable integer. -/
@[simp] lemma Dyn.asInt_ofInt (n : Option Int) : (Dyn.ofInt n).asInt = .ok n := by
  cases n <;> rfl

/-- Reading back a nullable string. -/
@[simp] lemma Dyn.asString_ofString (s : Option String) : (Dyn.ofString s).asString = .ok s := by
  cases s <;> rfl

/-- The downcast to `int` gives the integer the value was. -/
lemma Dyn.asInt_eq_ok {d : Dyn} {n : Option Int} : d.asInt = .ok n ↔ d = .ofInt n := by
  constructor
  · intro h
    cases d with
    | null => rw [← Except.ok.inj h, Dyn.ofInt]
    | int i => rw [← Except.ok.inj h, Dyn.ofInt]
    | _ => cases h
  · rintro rfl
    exact Dyn.asInt_ofInt n

/-- The downcast to `String` gives the string the value was. -/
lemma Dyn.asString_eq_ok {d : Dyn} {s : Option String} :
    d.asString = .ok s ↔ d = .ofString s := by
  constructor
  · intro h
    cases d with
    | null => rw [← Except.ok.inj h, Dyn.ofString]
    | str t => rw [← Except.ok.inj h, Dyn.ofString]
    | _ => cases h
  · rintro rfl
    exact Dyn.asString_ofString s

/-- A map literal reads back as itself. -/
@[simp] lemma Dyn.asMap_map (m : DynMap) : (Dyn.map m).asMap = .ok m := rfl

/-- What is used as a map is one. -/
lemma Dyn.asMap_eq_ok {d : Dyn} {m : DynMap} : d.asMap = .ok m ↔ d = .map m := by
  constructor
  · intro h
    cases d with
    | map m' => rw [← Except.ok.inj h]
    | _ => cases h
  · rintro rfl
    rfl

/-- `"${n}"`: the text of a nullable integer in a string interpolation. -/
def interpolate : Option Int → String
  | none => "null"
  | some n => n.repr

end Dart
