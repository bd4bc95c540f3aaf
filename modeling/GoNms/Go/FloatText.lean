import GoNms.Go.Float
import GoNms.Go.Fmt

set_option autoImplicit false

/-! # Float text: `strconv.ParseFloat`, `fmt.Sscanf("%f")`, `math.Ldexp`, `fmt.Sprintf("%.2f")`

`ParseFloat(s, 64)` first tries the special words (`special`: `inf`, `infinity` with an optional
sign, `nan`, in any case), then Go's float-literal syntax (`readFloat`): an optional sign, a decimal
or `0x` mantissa with at most one point and underscores, and an exponent, `e` for a decimal and a
mandatory `p` for a hexadecimal mantissa, whose digits stop accumulating once past 10000. The whole
string must be read. Every conversion path of the library (the exact fast path, Eisel–Lemire, the
decimal slow path, `atofHex`) returns the literal's value rounded to nearest, ties to even, and
`±Inf` with `ErrRange` past the largest finite value; the model computes the literal's exact value
and rounds it once, with `GoFloat.ofRat`.

`Sscanf` with `%f` skips spaces, reads a token with fmt's own greedy scanner (`floatToken`) and
converts it with `ParseFloat`, reading a `p` exponent itself through `Atoi` and `Ldexp`. -/

namespace GoNms.Go

/-! ## `strconv.ParseFloat` -/

/-- `commonPrefixLenIgnoreCase(s, w)` for a lower-case word `w`. -/
def commonPrefixLenIgnoreCase : List Char → List Char → ℕ
  | c :: s, p :: w => if c.toLower = p then commonPrefixLenIgnoreCase s w + 1 else 0
  | _, _ => 0

/-- How much of `infinity` a text spells: all of it, its first three letters, or neither. -/
def infinityLen (s : List Char) : Option ℕ :=
  let n := commonPrefixLenIgnoreCase s "infinity".data
  let n := if 3 < n ∧ n < 8 then 3 else n
  if n = 3 ∨ n = 8 then some n else none

/-- `special`: a special word at the start of `s`, and how many runes it takes. A sign falls
through to the infinity case only. -/
def special : List Char → Option (GoFloat × ℕ)
  | [] => none
  | c :: rest =>
      if c = '+' ∨ c = '-' then (infinityLen rest).map fun n => (.inf (c = '-'), n + 1)
      else if c = 'i' ∨ c = 'I' then (infinityLen (c :: rest)).map fun n => (.inf false, n)
      else if (c = 'n' ∨ c = 'N') ∧ commonPrefixLenIgnoreCase (c :: rest) "nan".data = 3 then
        some (.nan, 3)
      else none

/-- A float literal as `readFloat` reads it: its sign, its base, every mantissa digit as one
number, and the power of the base (2 for hexadecimal, 10 for decimal) that scales it. -/
structure FloatLit where
  neg : Bool
  hex : Bool
  mantissa : ℕ
  exp : ℤ
  deriving DecidableEq, Repr

/-- The exact value a literal denotes. -/
def FloatLit.value (lit : FloatLit) : ℚ :=
  (if lit.neg then -1 else 1) * lit.mantissa * (if lit.hex then (2 : ℚ) else 10) ^ lit.exp

/-- The state of `readFloat`'s mantissa loop: the digits read as one number and how many, how many
stood before the point once one is seen, whether a digit or an underscore was seen, and how many
runes were read. -/
structure MantissaScan where
  mantissa : ℕ
  nd : ℕ
  dp : Option ℕ
  sawdigits : Bool
  underscores : Bool
  read : ℕ

/-- A mantissa digit's value: `0`–`9`, and `a`–`f` in either case for a hexadecimal literal. -/
def mantissaDigit (hex : Bool) (c : Char) : Option ℕ :=
  if c.isDigit then some (digitVal c)
  else if hex ∧ 'a' ≤ c.toLower ∧ c.toLower ≤ 'f' then some (c.toLower.toNat - 'a'.toNat + 10)
  else none

/-- `readFloat`'s mantissa loop: it stops at a second point or at any other rune. -/
def scanMantissa (hex : Bool) : List Char → MantissaScan → MantissaScan
  | [], st => st
  | c :: rest, st =>
      if c = '_' then scanMantissa hex rest { st with underscores := true, read := st.read + 1 }
      else if c = '.' then
        match st.dp with
        | some _ => st
        | none => scanMantissa hex rest { st with dp := some st.nd, read := st.read + 1 }
      else
        match mantissaDigit hex c with
        | some d =>
            scanMantissa hex rest
              { st with mantissa := st.mantissa * (if hex then 16 else 10) + d, nd := st.nd + 1,
                        sawdigits := true, read := st.read + 1 }
        | none => st

/-- `readFloat`'s exponent loop over digits and underscores: the value, whether an underscore
was seen, and how many runes were read. The value stops growing once it is 10000 or more. -/
def scanExponent : List Char → ℕ × Bool × ℕ → ℕ × Bool × ℕ
  | [], st => st
  | c :: rest, (e, u, n) =>
      if c.isDigit then scanExponent rest (if e < 10000 then e * 10 + digitVal c else e, u, n + 1)
      else if c = '_' then scanExponent rest (e, true, n + 1)
      else (e, u, n)

/-- The last rune class `underscoreOK` saw: a digit or base prefix, an underscore, or other. -/
inductive SawClass where
  | start
  | digit
  | underscore
  | other
  deriving DecidableEq, Repr

/-- One step of `underscoreOK`'s loop; `none` is its early `return false`. -/
def underscoreStep (hex : Bool) (saw : Option SawClass) (c : Char) : Option SawClass :=
  saw.bind fun saw =>
    if c.isDigit ∨ (hex ∧ 'a' ≤ c.toLower ∧ c.toLower ≤ 'f') then some .digit
    else if c = '_' then (if saw = .digit then some .underscore else none)
    else if saw = .underscore then none
    else some .other

/-- `underscoreOK`: every underscore stands between digits (or after a base prefix). -/
def underscoreOK (s : List Char) : Bool :=
  let s := match s with
    | '+' :: r => r
    | '-' :: r => r
    | r => r
  let (hex, saw, s) : Bool × SawClass × List Char := match s with
    | '0' :: b :: r =>
        if b.toLower = 'b' ∨ b.toLower = 'o' ∨ b.toLower = 'x' then (b.toLower = 'x', .digit, r)
        else (false, .start, s)
    | _ => (false, .start, s)
  match s.foldl (underscoreStep hex) (some saw) with
  | some saw => saw ≠ .underscore
  | none => false

/-- The `0x` prefix of a hexadecimal literal; `readFloat` takes it only with a rune after it. -/
def splitHexPrefix : List Char → Bool × List Char
  | '0' :: x :: c :: r => if x.toLower = 'x' then (true, c :: r) else (false, '0' :: x :: c :: r)
  | s => (false, s)

/-- `readFloat`'s exponent: its signed value, whether it had an underscore, and how many runes
it took; `none` where it is malformed, or missing after a hexadecimal mantissa. -/
def readExponent (hex : Bool) : List Char → Option (ℤ × Bool × ℕ)
  | c :: r =>
      if c.toLower = (if hex then 'p' else 'e') then
        let (neg, digits) := splitSign r
        match digits with
        | d :: _ =>
            if d.isDigit then
              let (e, u, j) := scanExponent digits (0, false, 0)
              some (if neg then -(e : ℤ) else e, u, 1 + (r.length - digits.length) + j)
            else none
        | [] => none
      else if hex then none else some (0, false, 0)
  | [] => if hex then none else some (0, false, 0)

/-- `readFloat`: the literal at the start of `s` and how many runes it takes, or `none` where the
library returns `ok = false`. -/
def readFloat (s : List Char) : Option (FloatLit × ℕ) :=
  if s = [] then none else
  let (neg, s1) := splitSign s
  let (hex, s2) := splitHexPrefix s1
  let m := scanMantissa hex s2 ⟨0, 0, none, false, false, 0⟩
  let i := s.length - s2.length + m.read
  if !m.sawdigits then none else
  match readExponent hex (s2.drop m.read) with
  | none => none
  | some (e, u, j) =>
      if (m.underscores || u) && !underscoreOK (s.take (i + j)) then none
      else
        let scale : ℤ := if hex then 4 else 1
        some (⟨neg, hex, m.mantissa, scale * (m.dp.getD m.nd : ℕ) + e - scale * m.nd⟩, i + j)

/-- `strconv.ParseFloat(s, 64)`. -/
def parseFloat (s : List Char) : Except NumError GoFloat :=
  match special s with
  | some (f, n) => if n = s.length then .ok f else .error .errSyntax
  | none =>
      match readFloat s with
      | none => .error .errSyntax
      | some (lit, n) =>
          if n ≠ s.length then .error .errSyntax
          else if (GoFloat.ofRat lit.value).isFinite then .ok (GoFloat.ofRat lit.value)
          else .error .errRange

/-! ### Decimal numerals -/

theorem special_of_isDigit {c : Char} (r : List Char) (hc : c.isDigit = true) :
    special (c :: r) = none := by
  have hne : ∀ d : Char, d.isDigit = false → c ≠ d := fun d hd h => by rw [h, hd] at hc; cases hc
  simp only [special, hne '+' rfl, hne '-' rfl, hne 'i' rfl, hne 'I' rfl, hne 'n' rfl, hne 'N' rfl,
    or_self, if_false, false_and]

theorem splitHexPrefix_of_digits {s : List Char} (hs : ∀ c ∈ s, c.isDigit = true) :
    splitHexPrefix s = (false, s) := by
  unfold splitHexPrefix
  split
  · next x c r =>
      have hx := hs x (by simp)
      rw [toLower_of_isDigit hx, if_neg (by rintro rfl; exact absurd hx (by decide))]
  · rfl

theorem scanMantissa_digits (l : List Char) (hl : ∀ c ∈ l, c.isDigit = true) (st : MantissaScan) :
    scanMantissa false l st =
      { st with mantissa := l.foldl (fun n c => n * 10 + digitVal c) st.mantissa,
                nd := st.nd + l.length, sawdigits := st.sawdigits || !l.isEmpty,
                read := st.read + l.length } := by
  induction l generalizing st with
  | nil => simp only [scanMantissa, List.foldl_nil, List.length_nil, add_zero, List.isEmpty_nil,
      Bool.not_true, Bool.or_false]
  | cons c l ih =>
      have hc := hl c (List.mem_cons_self c l)
      rw [scanMantissa, if_neg (by rintro rfl; exact absurd hc (by decide)),
        if_neg (by rintro rfl; exact absurd hc (by decide)), mantissaDigit, if_pos hc]
      simp only [Bool.false_eq_true, if_false]
      rw [ih (fun c hc => hl c (List.mem_cons_of_mem _ hc))]
      simp only [List.foldl_cons, List.length_cons, List.isEmpty_cons, Bool.not_false,
        Bool.or_true, Bool.true_or, MantissaScan.mk.injEq, true_and, and_true]
      exact ⟨by omega, by omega⟩

/-- A decimal numeral is a literal of its value, with nothing after it. -/
theorem readFloat_digits {l : List Char} (hne : l ≠ []) (hl : ∀ c ∈ l, c.isDigit = true) :
    readFloat l = some (⟨false, false, decimalValue l, 0⟩, l.length) := by
  obtain ⟨c, r, rfl⟩ := List.exists_cons_of_ne_nil hne
  have hscan := scanMantissa_digits (c :: r) hl ⟨0, 0, none, false, false, 0⟩
  simp only [readFloat, splitSign_of_isDigit r (hl c (List.mem_cons_self c r)),
    splitHexPrefix_of_digits hl, hscan, List.cons_ne_nil, if_false]
  simp [readExponent, decimalValue]

/-- `ParseFloat` of a decimal numeral is its value, rounded. -/
theorem parseFloat_digits {l : List Char} (hne : l ≠ []) (hl : ∀ c ∈ l, c.isDigit = true)
    (hfin : (GoFloat.ofRat (decimalValue l)).isFinite = true) :
    parseFloat l = .ok (GoFloat.ofRat (decimalValue l)) := by
  obtain ⟨c, r, rfl⟩ := List.exists_cons_of_ne_nil hne
  have hval : FloatLit.value ⟨false, false, decimalValue (c :: r), 0⟩ = decimalValue (c :: r) := by
    simp [FloatLit.value]
  simp only [parseFloat, special_of_isDigit r (hl c (List.mem_cons_self c r)),
    readFloat_digits hne hl, hval, hfin, ne_eq, not_true_eq_false, if_false, if_true]

/-- The numeral of a 63-bit natural number parses to its `float64`. -/
theorem parseFloat_toDigits {n : ℕ} (hn : n < 2 ^ 63) :
    parseFloat (Nat.toDigits 10 n) = .ok (GoFloat.ofInt n) := by
  have hb : |((n : ℤ) : ℚ)| ≤ maxFinite := GoFloat.abs_intCast_le_maxFinite ⟨by omega, by omega⟩
  have hofInt : GoFloat.ofInt n = GoFloat.ofRat (decimalValue (Nat.toDigits 10 n)) := by
    rw [decimalValue_toDigits, GoFloat.ofInt, Int.cast_natCast]
  rw [hofInt]
  refine parseFloat_digits (toDigits_ne_nil n) (toDigits_isDigit n) ?_
  rw [← hofInt, GoFloat.ofInt, GoFloat.ofRat_of_abs_le hb]
  rfl

example : parseFloat "NaN".data = .ok .nan := rfl
example : parseFloat "-Infinity".data = .ok (.inf true) := rfl
example : parseFloat "infinit".data = .error .errSyntax := rfl
example : parseFloat "0x1".data = .error .errSyntax := rfl

/-! ## `fmt.Sscanf("%f")` -/

/-- `math.Ldexp(frac, exp)`: `frac · 2^exp`, rounded; infinities and NaN pass through. -/
def ldexp (frac : GoFloat) (exp : ℤ) : GoFloat :=
  match frac with
  | .finite a => GoFloat.ofRat (a.val * 2 ^ exp)
  | f => f

/-- `ss.accept(ok)`: move the next rune into the token when it is one of `ok`. -/
def accept (ok : List Char) : List Char × List Char → Bool × List Char × List Char
  | (buf, c :: rest) => if c ∈ ok then (true, buf ++ [c], rest) else (false, buf, c :: rest)
  | (buf, []) => (false, buf, [])

/-- `for s.accept(ok) {}`. -/
def acceptAll (ok : List Char) (st : List Char × List Char) : List Char × List Char :=
  (st.1 ++ st.2.takeWhile (· ∈ ok), st.2.dropWhile (· ∈ ok))

/-- `ss.floatToken`: fmt's greedy scan of a float token. Each `accept` that succeeds keeps its
rune, also when a later one of the same test fails. -/
def floatToken (input : List Char) : List Char :=
  -- NaN?
  let (n1, st) := accept ['n', 'N'] ([], input)
  let (a, st) := if n1 then accept ['a', 'A'] st else (false, st)
  let (n2, st) := if a then accept ['n', 'N'] st else (false, st)
  if n2 then st.1 else
  -- leading sign, then Inf?
  let st := (accept ['+', '-'] st).2
  let (i, st) := accept ['i', 'I'] st
  let (n, st) := if i then accept ['n', 'N'] st else (false, st)
  let (f, st) := if n then accept ['f', 'F'] st else (false, st)
  if f then st.1 else
  -- digits, point, fraction, exponent
  let (zero, st) := accept ['0'] st
  let (x, st) := if zero then accept ['x', 'X'] st else (false, st)
  let digits := if x then "0123456789aAbBcCdDeEfF_".data else "0123456789_".data
  let exp := if x then "pP".data else "eEpP".data
  let st := acceptAll digits st
  let (dot, st) := accept ['.'] st
  let st := if dot then acceptAll digits st else st
  let (e, st) := accept exp st
  let st := if e then acceptAll "0123456789_".data (accept ['+', '-'] st).2 else st
  st.1

/-- Why `Sscanf` with `%f` failed: a scan error, or the `strconv` error of the token. -/
inductive ScanFloatError where
  | scan (msg : String)
  | parse (e : NumError)
  deriving DecidableEq, Repr

/-- `ss.convertFloat`: in a token with no `x` or `X`, a lower-case `p` splits a mantissa for
`ParseFloat` from a binary exponent for `Atoi`, joined by `Ldexp`; any other token, a hexadecimal
one among them, goes to `ParseFloat` whole. -/
def convertFloat (str : List Char) : Except ScanFloatError GoFloat :=
  if 'p' ∈ str ∧ ¬('x' ∈ str ∨ 'X' ∈ str) then
    let p := str.indexOf 'p'
    match parseFloat (str.take p) with
    | .error e => .error (.parse e)
    | .ok f =>
        match parseInt (str.drop (p + 1)) with
        | .error e => .error (.parse e)
        | .ok m => .ok (ldexp f m)
  else
    match parseFloat str with
    | .error e => .error (.parse e)
    | .ok f => .ok f

/-- `fmt.Sscanf(s, "%f", &f)` into a `float64`: skip spaces, require input, scan a token and
convert it; the rest of `s` is ignored. -/
def sscanFloat (s : String) : Except ScanFloatError GoFloat :=
  match skipSpace s.data with
  | .error e => .error (.scan e)
  | .ok [] => .error (.scan "unexpected EOF")
  | .ok rest => convertFloat (floatToken rest)

example : sscanFloat " nan%" = .ok .nan := rfl
example : sscanFloat "" = .error (.scan "unexpected EOF") := rfl

/-! ## `fmt.Sprintf("%.2f")` -/

/-- Two decimal digits of `k < 100`, with a leading zero. -/
def twoDigits (k : ℕ) : List Char :=
  [Char.ofNat ('0'.toNat + k / 10), Char.ofNat ('0'.toNat + k % 10)]

/-- `fmt.Sprintf("%.2f", f)`: the exact value rounded to hundredths, ties to even, with a minus
sign for a negative value; `NaN`, `+Inf` and `-Inf` for the others. -/
def sprintfF2 : GoFloat → String
  | .finite a =>
      let r := (roundHalfEven (|a.val| * 100)).toNat
      ⟨(if a.val < 0 then ['-'] else []) ++ Nat.toDigits 10 (r / 100) ++ '.' :: twoDigits (r % 100)⟩
  | .inf neg => if neg then "-Inf" else "+Inf"
  | .nan => "NaN"

end GoNms.Go
