import Mathlib.Data.List.Basic

/-!
# Base64

The encoding of bytes as text with four characters for three bytes, padded with `=` where one or two
bytes are missing at the end.  `decode` accepts a text in the same alphabet, padded so, whose unused
bits are zero.

`decode_encode` is the round trip.
-/

namespace Base64

/-- The character of a number below `64`. -/
def digit (n : ℕ) : Char :=
  if n < 26 then Char.ofNat (n + 65)
  else if n < 52 then Char.ofNat (n + 71)
  else if n < 62 then Char.ofNat (n - 4)
  else if n = 62 then '+'
  else '/'

/-- The number of a character. -/
def sextet (c : Char) : Option ℕ :=
  if 'A' ≤ c ∧ c ≤ 'Z' then some (c.toNat - 65)
  else if 'a' ≤ c ∧ c ≤ 'z' then some (c.toNat - 71)
  else if '0' ≤ c ∧ c ≤ '9' then some (c.toNat + 4)
  else if c = '+' then some 62
  else if c = '/' then some 63
  else none

/-- The characters of a list of bytes. -/
def encode : List UInt8 → List Char
  | [] => []
  | [a] => [digit (a.toNat / 4), digit (a.toNat % 4 * 16), '=', '=']
  | [a, b] =>
    [digit (a.toNat / 4), digit (a.toNat % 4 * 16 + b.toNat / 16), digit (b.toNat % 16 * 4), '=']
  | a :: b :: c :: bs =>
    digit (a.toNat / 4) :: digit (a.toNat % 4 * 16 + b.toNat / 16) ::
      digit (b.toNat % 16 * 4 + c.toNat / 64) :: digit (c.toNat % 64) :: encode bs

/-- The bytes of a list of characters. -/
def decode : List Char → Option (List UInt8)
  | [] => some []
  | c₀ :: c₁ :: c₂ :: c₃ :: cs => do
    let w ← sextet c₀
    let x ← sextet c₁
    if c₂ = '=' then
      if c₃ = '=' ∧ cs = [] ∧ x % 16 = 0 then some [UInt8.ofNat (w * 4 + x / 16)] else none
    else
      let y ← sextet c₂
      if c₃ = '=' then
        if cs = [] ∧ y % 4 = 0 then
          some [UInt8.ofNat (w * 4 + x / 16), UInt8.ofNat (x % 16 * 16 + y / 4)]
        else none
      else
        let z ← sextet c₃
        let bs ← decode cs
        some (UInt8.ofNat (w * 4 + x / 16) :: UInt8.ofNat (x % 16 * 16 + y / 4) ::
          UInt8.ofNat (y % 4 * 64 + z) :: bs)
  | _ => none

/-- The number of the character of a number. -/
lemma sextet_digit {n : ℕ} (h : n < 64) : sextet (digit n) = some n := by
  have hall : ∀ n < 64, sextet (digit n) = some n := by decide
  exact hall n h

/-- The padding is not the character of a number. -/
lemma digit_ne_pad (n : ℕ) (h : n < 64) : digit n ≠ '=' := by
  intro heq
  have hsextet := sextet_digit h
  rw [heq] at hsextet
  cases hsextet

/-- A number that is the value of a byte stands for it. -/
lemma ofNat_eq {n : ℕ} {a : UInt8} (h : n = a.toNat) : UInt8.ofNat n = a := by
  rw [h, UInt8.ofNat_toNat]

/-- **The round trip.** -/
theorem decode_encode (bs : List UInt8) : decode (encode bs) = some bs := by
  induction bs using encode.induct with
  | case1 => rfl
  | case2 a =>
    have ha := a.toNat_lt
    have hw : a.toNat / 4 < 64 := by omega
    have hx : a.toNat % 4 * 16 < 64 := by omega
    have hzero : a.toNat % 4 * 16 % 16 = 0 := by omega
    have hbyte : UInt8.ofNat (a.toNat / 4 * 4 + a.toNat % 4 * 16 / 16) = a := ofNat_eq (by omega)
    simp only [encode, decode, sextet_digit hw, sextet_digit hx, hzero, hbyte, and_self, if_true,
      Option.bind_eq_bind, Option.bind_some]
  | case3 a b =>
    have ha := a.toNat_lt
    have hb := b.toNat_lt
    have hw : a.toNat / 4 < 64 := by omega
    have hx : a.toNat % 4 * 16 + b.toNat / 16 < 64 := by omega
    have hy : b.toNat % 16 * 4 < 64 := by omega
    have hbyte : UInt8.ofNat (a.toNat / 4 * 4 + (a.toNat % 4 * 16 + b.toNat / 16) / 16) = a :=
      ofNat_eq (by omega)
    have hbyte' : UInt8.ofNat ((a.toNat % 4 * 16 + b.toNat / 16) % 16 * 16 +
        b.toNat % 16 * 4 / 4) = b := ofNat_eq (by omega)
    simp only [encode, decode, sextet_digit hw, sextet_digit hx, sextet_digit hy, hbyte, hbyte',
      if_neg (digit_ne_pad _ hy), Option.bind_eq_bind, Option.bind_some]
    simp
  | case4 a b c bs ih =>
    have ha := a.toNat_lt
    have hb := b.toNat_lt
    have hc := c.toNat_lt
    have hw : a.toNat / 4 < 64 := by omega
    have hx : a.toNat % 4 * 16 + b.toNat / 16 < 64 := by omega
    have hy : b.toNat % 16 * 4 + c.toNat / 64 < 64 := by omega
    have hz : c.toNat % 64 < 64 := by omega
    have hbyte : UInt8.ofNat (a.toNat / 4 * 4 + (a.toNat % 4 * 16 + b.toNat / 16) / 16) = a :=
      ofNat_eq (by omega)
    have hbyte' : UInt8.ofNat ((a.toNat % 4 * 16 + b.toNat / 16) % 16 * 16 +
        (b.toNat % 16 * 4 + c.toNat / 64) / 4) = b := ofNat_eq (by omega)
    have hbyte'' : UInt8.ofNat ((b.toNat % 16 * 4 + c.toNat / 64) % 4 * 64 + c.toNat % 64) = c :=
      ofNat_eq (by omega)
    simp only [encode, decode, sextet_digit hw, sextet_digit hx, sextet_digit hy, sextet_digit hz,
      hbyte, hbyte', hbyte'', if_neg (digit_ne_pad _ hy), if_neg (digit_ne_pad _ hz),
      Option.bind_eq_bind, Option.bind_some, ih]

end Base64
