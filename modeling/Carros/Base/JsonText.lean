import Carros.Base.Dyn

/-!
# JSON text

`jsonEncode` prints a dynamic value the way `json.encode` does: no white space, map entries in
insertion order, the two-character escapes for `"`, `\`, `\b`, `\f`, `\n`, `\r`, `\t` and a
`\u00xx` escape for the other control characters.  `jsonDecode` reads any JSON text; `none` stands
for the `FormatException` of `json.decode`.

A number with a fraction or an exponent is read as a double, and so is an integer literal that does
not fit into 64 bits; any other number is read as an integer.
A `\u` escape that is half of a surrogate pair without its other half is read as U+FFFD, since a
`Char` is never a surrogate.

The reader runs on fuel, which `jsonDecode` takes from the length of the text.
-/

namespace Dart

/-! ## Printing -/

/-- One character of a string literal. -/
def escapeChar (c : Char) : List Char :=
  if c = '\x22' then ['\x5c', '\x22']
  else if c = '\x5c' then ['\x5c', '\x5c']
  else if c = '\x08' then ['\x5c', 'b']
  else if c = '\x0c' then ['\x5c', 'f']
  else if c = '\n' then ['\x5c', 'n']
  else if c = '\r' then ['\x5c', 'r']
  else if c = '\t' then ['\x5c', 't']
  else if c.toNat < 32 then
    ['\x5c', 'u', '0', '0', (c.toNat / 16).digitChar, (c.toNat % 16).digitChar]
  else [c]

/-- A string literal. -/
def printString (s : String) : List Char :=
  '\x22' :: (s.toList.flatMap escapeChar ++ ['\x22'])

mutual

/-- The text of a value. -/
def print : Dyn → List Char
  | .null => ['n', 'u', 'l', 'l']
  | .bool true => ['t', 'r', 'u', 'e']
  | .bool false => ['f', 'a', 'l', 's', 'e']
  | .int n => n.repr.toList
  | .double m e => m.repr.toList ++ 'e' :: e.repr.toList
  | .str s => printString s
  | .list xs => '[' :: (printList xs ++ [']'])
  | .map m => '\x7b' :: (printEntries m ++ ['\x7d'])

/-- The elements of a list, separated by commas. -/
def printList : List Dyn → List Char
  | [] => []
  | [x] => print x
  | x :: y :: xs => print x ++ ',' :: printList (y :: xs)

/-- The entries of a map, separated by commas. -/
def printEntries : List (String × Dyn) → List Char
  | [] => []
  | [(k, x)] => printString k ++ ':' :: print x
  | (k, x) :: y :: xs => printString k ++ ':' :: (print x ++ ',' :: printEntries (y :: xs))

end

/-- `json.encode`. -/
def jsonEncode (d : Dyn) : String := String.ofList (print d)

/-! ## Reading -/

/-- The characters JSON allows between tokens. -/
def isWs (c : Char) : Bool := c = ' ' || c = '\t' || c = '\n' || c = '\r'

/-- Skip white space. -/
def skipWs (cs : List Char) : List Char := cs.dropWhile isWs

/-- The value of a hexadecimal digit. -/
def hexVal (c : Char) : Option ℕ :=
  if '0' ≤ c ∧ c ≤ '9' then some (c.toNat - 48)
  else if 'a' ≤ c ∧ c ≤ 'f' then some (c.toNat - 87)
  else if 'A' ≤ c ∧ c ≤ 'F' then some (c.toNat - 55)
  else none

/-- The code unit of the four digits after `\u`. -/
def hexUnit (a b c d : Char) : Option ℕ := do
  return ((← hexVal a) * 16 + (← hexVal b)) * 256 + ((← hexVal c) * 16 + (← hexVal d))

/-- The character two surrogates stand for. -/
def pairChar (hi lo : ℕ) : Char := Char.ofNat (0x10000 + (hi - 0xD800) * 0x400 + (lo - 0xDC00))

/-- The character after a backslash, and what follows it. -/
def readEscape : List Char → Option (Char × List Char)
  | '\x22' :: r => some ('\x22', r)
  | '\x5c' :: r => some ('\x5c', r)
  | '/' :: r => some ('/', r)
  | 'b' :: r => some ('\x08', r)
  | 'f' :: r => some ('\x0c', r)
  | 'n' :: r => some ('\n', r)
  | 'r' :: r => some ('\r', r)
  | 't' :: r => some ('\t', r)
  | 'u' :: a :: b :: c :: d :: r => do
    let n ← hexUnit a b c d
    if n < 0xD800 ∨ 0xDFFF < n then return (Char.ofNat n, r)
    match r with
    | '\x5c' :: 'u' :: a' :: b' :: c' :: d' :: r' =>
      let m ← hexUnit a' b' c' d'
      if n < 0xDC00 ∧ 0xDC00 ≤ m ∧ m ≤ 0xDFFF then return (pairChar n m, r')
      return ('\uFFFD', r)
    | _ => return ('\uFFFD', r)
  | _ => none

/-- The rest of a string literal after its opening quote. -/
def readString : ℕ → List Char → Option (List Char × List Char)
  | 0, _ => none
  | _ + 1, [] => none
  | n + 1, c :: r =>
    if c = '\x22' then some ([], r)
    else if c = '\x5c' then do
      let (x, r₁) ← readEscape r
      let (xs, r₂) ← readString n r₁
      return (x :: xs, r₂)
    else if c.toNat < 32 then none
    else do
      let (xs, r₁) ← readString n r
      return (c :: xs, r₁)

/-- A nonempty run of digits: the digits and what follows them. -/
def readDigits (cs : List Char) : Option (List Char × List Char) :=
  match cs.takeWhile Char.isDigit with
  | [] => none
  | d :: ds => some (d :: ds, cs.dropWhile Char.isDigit)

/-- An optional minus sign. -/
def readMinus : List Char → Bool × List Char
  | '-' :: r => (true, r)
  | r => (false, r)

/-- An optional sign of an exponent. -/
def readSign : List Char → Bool × List Char
  | '+' :: r => (false, r)
  | r => readMinus r

/-- A natural number with its sign. -/
def signed (neg : Bool) (n : ℕ) : Int := if neg then -(n : Int) else n

/-- The fraction of a number: its digits, empty if there is none. -/
def readFraction : List Char → Option (List Char × List Char)
  | '.' :: r => readDigits r
  | r => some ([], r)

/-- The exponent of a number, `none` if there is none. -/
def readExponent : List Char → Option (Option Int × List Char)
  | c :: r =>
    if c = 'e' ∨ c = 'E' then do
      let (neg, r₁) := readSign r
      let (ds, r₂) ← readDigits r₁
      return (some (signed neg (Nat.ofDigitChars 10 ds 0)), r₂)
    else some (none, c :: r)
  | [] => some (none, [])

/-- A number: a double when it has a fraction or an exponent, and otherwise an integer literal. -/
def readNumber (cs : List Char) : Option (Dyn × List Char) := do
  let (neg, r) := readMinus cs
  let (ds, r₁) ← readDigits r
  if ds.head? = some '0' ∧ ds.length ≠ 1 then none
  let (fs, r₂) ← readFraction r₁
  let (ex, r₃) ← readExponent r₂
  let mant := signed neg (Nat.ofDigitChars 10 (ds ++ fs) 0)
  match fs, ex with
  | [], none => return (.ofLiteral mant, r₃)
  | fs, ex => return (.double mant (ex.getD 0 - fs.length), r₃)

mutual

/-- A value, with leading white space. -/
def readValue : ℕ → List Char → Option (Dyn × List Char)
  | 0, _ => none
  | n + 1, cs =>
    match skipWs cs with
    | 'n' :: 'u' :: 'l' :: 'l' :: r => some (.null, r)
    | 't' :: 'r' :: 'u' :: 'e' :: r => some (.bool true, r)
    | 'f' :: 'a' :: 'l' :: 's' :: 'e' :: r => some (.bool false, r)
    | '\x22' :: r => do
      let (s, r₁) ← readString (r.length + 1) r
      return (.str (String.ofList s), r₁)
    | '[' :: r =>
      match skipWs r with
      | ']' :: r₁ => some (.list [], r₁)
      | r₁ => do
        let (xs, r₂) ← readList n r₁
        return (.list xs, r₂)
    | '\x7b' :: r =>
      match skipWs r with
      | '\x7d' :: r₁ => some (.map [], r₁)
      | r₁ => do
        let (m, r₂) ← readEntries n r₁
        return (.map m, r₂)
    | r => readNumber r

/-- The elements of a list, up to its closing bracket. -/
def readList : ℕ → List Char → Option (List Dyn × List Char)
  | 0, _ => none
  | n + 1, cs => do
    let (x, r) ← readValue n cs
    match skipWs r with
    | ',' :: r₁ => do
      let (xs, r₂) ← readList n r₁
      return (x :: xs, r₂)
    | ']' :: r₁ => return ([x], r₁)
    | _ => none

/-- The entries of a map, up to its closing brace. -/
def readEntries : ℕ → List Char → Option (List (String × Dyn) × List Char)
  | 0, _ => none
  | n + 1, cs =>
    match skipWs cs with
    | '\x22' :: r => do
      let (k, r₁) ← readString (r.length + 1) r
      match skipWs r₁ with
      | ':' :: r₂ => do
        let (x, r₃) ← readValue n r₂
        match skipWs r₃ with
        | ',' :: r₄ => do
          let (m, r₅) ← readEntries n r₄
          return ((String.ofList k, x) :: m, r₅)
        | '\x7d' :: r₄ => return ([(String.ofList k, x)], r₄)
        | _ => none
      | _ => none
    | _ => none

end

/-- `json.decode`; `none` is its `FormatException`. -/
def jsonDecode (text : String) : Option Dyn :=
  let cs := text.toList
  match readValue (2 * cs.length + 1) cs with
  | some (d, r) => if skipWs r = [] then some d else none
  | none => none

end Dart
