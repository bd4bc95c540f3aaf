import GoNms.Go.Strings
import Mathlib.Algebra.Order.Group.Nat
import Mathlib.Tactic.Ring
import Mathlib.Tactic.Linarith
import Mathlib.Data.Nat.Digits

set_option autoImplicit false

/-! # Integer text: `strconv.ParseUint`/`ParseInt`, `fmt.Sscanf("%d")`, `fmt.Sprintf("%d"/"%X")`

The parsers follow the library's loops: `ParseUint` reads decimal digits left to right and stops
at the first bad character or overflow; `ParseInt` adds a sign and the int64 range; `Sscanf` with
`%d` skips spaces, takes an optional sign and the longest run of digits and underscores, and hands
that token to `ParseInt`, ignoring whatever follows it. Printing uses the standard numeral
(`Nat.toDigits`), which is what fmt's `fmtInteger` writes.

The lemmas say that printing and scanning are inverse on every 63-bit natural number, and that the
printed numeral determines the integer. -/

namespace GoNms.Go

/-! ## Decimal digits -/

/-- `c - '0'` for a decimal digit `c`. -/
def digitVal (c : Char) : ℕ := c.toNat - '0'.toNat

theorem isDigit_iff_toNat {c : Char} : c.isDigit = true ↔ 48 ≤ c.toNat ∧ c.toNat ≤ 57 := by
  simp only [Char.isDigit, Bool.and_eq_true, decide_eq_true_eq, UInt32.le_def, BitVec.le_def]
  rfl

theorem toLower_of_isDigit {c : Char} (h : c.isDigit = true) : c.toLower = c := by
  rw [isDigit_iff_toNat] at h
  unfold Char.toLower
  rw [if_neg (by omega)]

/-- fmt's `isSpace`: the runes a scan skips as space (the Unicode White_Space class). -/
def isSpace (c : Char) : Bool :=
  let r := c.toNat
  (0x09 ≤ r && r ≤ 0x0d) || r == 0x20 || r == 0x85 || r == 0xa0 || r == 0x1680 ||
    (0x2000 ≤ r && r ≤ 0x200a) || r == 0x2028 || r == 0x2029 || r == 0x202f ||
    r == 0x205f || r == 0x3000

/-- `strings.TrimSpace(s)`: `s` without its leading and trailing white space (`unicode.IsSpace`,
the same class). -/
def trimSpace (s : String) : String := ⟨(s.data.dropWhile isSpace).rdropWhile isSpace⟩

/-- The characters a scan or a split of the modelled code stops at: spaces, signs, `_`, `.`. -/
def isSpaceOrSep (c : Char) : Bool :=
  isSpace c || c == '+' || c == '-' || c == '_' || c == '.'

/-- The value of a list of decimal digits, most significant first. -/
def decimalValue (l : List Char) : ℕ := l.foldl (fun n c => n * 10 + digitVal c) 0

private theorem foldl_decimal (l : List Char) (a : ℕ) :
    l.foldl (fun n c => n * 10 + digitVal c) a =
      a * 10 ^ l.length + l.foldl (fun n c => n * 10 + digitVal c) 0 := by
  induction l generalizing a with
  | nil => simp
  | cons c l ih =>
      rw [List.foldl_cons, List.foldl_cons, ih, ih (0 * 10 + digitVal c), List.length_cons]
      ring

theorem decimalValue_cons (c : Char) (l : List Char) :
    decimalValue (c :: l) = digitVal c * 10 ^ l.length + decimalValue l := by
  rw [decimalValue, List.foldl_cons, foldl_decimal, decimalValue]; simp

/-- What the modelled code needs of a printed decimal digit `c`: it is a digit and nothing the
scanners treat specially (space, newline, sign, underscore, the OID separator). -/
def PlainDigit (c : Char) : Prop :=
  c.isDigit = true ∧ isSpaceOrSep c = false

instance (c : Char) : Decidable (PlainDigit c) := inferInstanceAs (Decidable (_ ∧ _))

private theorem digitChar_spec : ∀ k < 10,
    PlainDigit (Nat.digitChar k) ∧ digitVal (Nat.digitChar k) = k := by decide

private theorem toDigitsCore_spec (fuel n : ℕ) (ds : List Char) (hn : n < fuel) :
    (∀ c ∈ Nat.toDigitsCore 10 fuel n ds, PlainDigit c ∨ c ∈ ds) ∧
      decimalValue (Nat.toDigitsCore 10 fuel n ds) = n * 10 ^ ds.length + decimalValue ds ∧
      ds.length < (Nat.toDigitsCore 10 fuel n ds).length := by
  induction fuel generalizing n ds with
  | zero => omega
  | succ fuel ih =>
      obtain ⟨hdig, hval⟩ := digitChar_spec (n % 10) (Nat.mod_lt _ (by norm_num))
      simp only [Nat.toDigitsCore]
      split
      · next h0 =>
          refine ⟨?_, ?_, by simp⟩
          · intro c hc; rcases List.mem_cons.mp hc with rfl | hc
            · exact .inl hdig
            · exact .inr hc
          · rw [decimalValue_cons, hval, Nat.mod_eq_of_lt (by omega)]
      · next h0 =>
          obtain ⟨ih1, ih2, ih3⟩ := ih (n / 10) (Nat.digitChar (n % 10) :: ds) (by omega)
          refine ⟨?_, ?_, by simp at ih3; omega⟩
          · intro c hc; rcases ih1 c hc with h | h
            · exact .inl h
            · rcases List.mem_cons.mp h with rfl | h
              · exact .inl hdig
              · exact .inr h
          · have hdm := Nat.div_add_mod n 10
            rw [ih2, decimalValue_cons, hval, List.length_cons, pow_succ]
            set q := n / 10
            set r := n % 10
            rw [← hdm]
            ring

theorem toDigits_plainDigit (n : ℕ) : ∀ c ∈ Nat.toDigits 10 n, PlainDigit c := fun c hc =>
  ((toDigitsCore_spec (n + 1) n [] (by omega)).1 c hc).resolve_right (List.not_mem_nil c)

theorem toDigits_isDigit (n : ℕ) : ∀ c ∈ Nat.toDigits 10 n, c.isDigit = true :=
  fun c hc => (toDigits_plainDigit n c hc).1

theorem decimalValue_toDigits (n : ℕ) : decimalValue (Nat.toDigits 10 n) = n := by
  simpa [decimalValue] using (toDigitsCore_spec (n + 1) n [] (by omega)).2.1

theorem toDigits_ne_nil (n : ℕ) : Nat.toDigits 10 n ≠ [] := by
  have := (toDigitsCore_spec (n + 1) n [] (by omega)).2.2
  intro h; rw [Nat.toDigits] at h; rw [h] at this; simp at this

theorem toDigits_head (n : ℕ) : ∃ c l, Nat.toDigits 10 n = c :: l ∧ PlainDigit c := by
  obtain ⟨c, l, hcl⟩ := List.exists_cons_of_ne_nil (toDigits_ne_nil n)
  exact ⟨c, l, hcl, toDigits_plainDigit n c (by rw [hcl]; exact List.mem_cons_self c l)⟩

/-- The numeral of a natural number determines it. -/
theorem toDigits_injective : Function.Injective (Nat.toDigits 10) := fun a b h => by
  rw [← decimalValue_toDigits a, h, decimalValue_toDigits]

/-! ## `strconv` -/

/-- Why a `strconv` parse failed: `strconv.ErrSyntax` or `strconv.ErrRange`. -/
inductive NumError where
  | errSyntax
  | errRange
  deriving DecidableEq, Repr

/-- The largest `uint64`. -/
def maxUint64 : ℕ := 2 ^ 64 - 1

/-- The digit loop of `strconv.ParseUint(s, 10, 64)` from the value `n` read so far: it stops at
the first non-digit (a syntax error) or at the first overflow (a range error). -/
def parseUintLoop : List Char → ℕ → Except NumError ℕ
  | [], n => .ok n
  | c :: rest, n =>
      if c.isDigit then
        if maxUint64 / 10 + 1 ≤ n then .error .errRange
        else if maxUint64 < n * 10 + digitVal c then .error .errRange
        else parseUintLoop rest (n * 10 + digitVal c)
      else .error .errSyntax

/-- `strconv.ParseUint(s, 10, 64)`. -/
def parseUint (s : List Char) : Except NumError ℕ :=
  if s = [] then .error .errSyntax else parseUintLoop s 0

/-- The sign `ParseInt` picks off: whether it was `-`, and the text after it. -/
def splitSign : List Char → Bool × List Char
  | '+' :: r => (false, r)
  | '-' :: r => (true, r)
  | r => (false, r)

theorem splitSign_of_isDigit {c : Char} (l : List Char) (hc : c.isDigit = true) :
    splitSign (c :: l) = (false, c :: l) := by
  unfold splitSign
  split
  · next r heq => rw [(List.cons.inj heq).1] at hc; exact absurd hc (by decide)
  · next r heq => rw [(List.cons.inj heq).1] at hc; exact absurd hc (by decide)
  · rfl

/-- `strconv.ParseInt(s, 10, 64)`: an optional sign, `ParseUint`'s digits, the int64 range. -/
def parseInt (s : List Char) : Except NumError ℤ :=
  if s = [] then .error .errSyntax else
    let (neg, digits) := splitSign s
    match parseUint digits with
    | .error e => .error e
    | .ok un =>
        if (!neg && 2 ^ 63 ≤ un) || (neg && 2 ^ 63 < un) then .error .errRange
        else .ok (if neg then -(un : ℤ) else un)

theorem parseUintLoop_digits (l : List Char) (acc : ℕ) (hl : ∀ c ∈ l, c.isDigit = true)
    (hle : acc * 10 ^ l.length + decimalValue l ≤ maxUint64) :
    parseUintLoop l acc = .ok (acc * 10 ^ l.length + decimalValue l) := by
  induction l generalizing acc with
  | nil => simp [parseUintLoop, decimalValue]
  | cons c l ih =>
      have hc := hl c (List.mem_cons_self c l)
      have hsplit : acc * 10 ^ (c :: l).length + decimalValue (c :: l) =
          (acc * 10 + digitVal c) * 10 ^ l.length + decimalValue l := by
        rw [decimalValue_cons, List.length_cons, pow_succ]; ring
      rw [hsplit] at hle ⊢
      have hpow : 1 ≤ 10 ^ l.length := Nat.one_le_pow _ _ (by norm_num)
      have hstep : acc * 10 + digitVal c ≤ maxUint64 := by nlinarith
      rw [parseUintLoop, if_pos hc, if_neg (by simp only [maxUint64] at hstep ⊢; omega),
        if_neg (by omega)]
      exact ih _ (fun c hc => hl c (List.mem_cons_of_mem _ hc)) hle

/-- The loop accepts only digits, and what it returns is the value read so far followed by the
digits, within `uint64`. -/
theorem parseUintLoop_eq_ok {l : List Char} {acc n : ℕ} (h : parseUintLoop l acc = .ok n) :
    (∀ c ∈ l, c.isDigit = true) ∧ n = acc * 10 ^ l.length + decimalValue l := by
  induction l generalizing acc with
  | nil => cases h; simp [decimalValue]
  | cons c l ih =>
      simp only [parseUintLoop] at h
      split_ifs at h with hc
      obtain ⟨hl, hn⟩ := ih h
      refine ⟨fun d hd => (List.mem_cons.mp hd).elim (· ▸ hc) (hl d), ?_⟩
      rw [hn, decimalValue_cons, List.length_cons, pow_succ]
      ring

theorem le_maxUint64_of_parseUintLoop {l : List Char} {acc n : ℕ} (hacc : acc ≤ maxUint64)
    (h : parseUintLoop l acc = .ok n) : n ≤ maxUint64 := by
  induction l generalizing acc with
  | nil => cases h; exact hacc
  | cons c l ih =>
      simp only [parseUintLoop] at h
      split_ifs at h with hc h1 h2
      exact ih (by omega) h

/-- A text `ParseUint` accepts: at least one character, all decimal digits, of value at most
`2^64 - 1`. Leading zeros are allowed. -/
def Uint64Numeral (s : List Char) : Prop :=
  s ≠ [] ∧ (∀ c ∈ s, c.isDigit = true) ∧ decimalValue s ≤ maxUint64

instance (s : List Char) : Decidable (Uint64Numeral s) := inferInstanceAs (Decidable (_ ∧ _ ∧ _))

/-- `ParseUint(s, 10, 64)` succeeds exactly on the numerals of `uint64` values, with their value. -/
theorem parseUint_eq_ok_iff (s : List Char) (n : ℕ) :
    parseUint s = .ok n ↔ Uint64Numeral s ∧ decimalValue s = n := by
  unfold parseUint
  split_ifs with hs
  · exact iff_of_false (fun h => nomatch h) fun h => h.1.1 hs
  constructor
  · intro h
    obtain ⟨hdig, hn⟩ := parseUintLoop_eq_ok h
    have hle := le_maxUint64_of_parseUintLoop (Nat.zero_le _) h
    simp only [Nat.zero_mul, Nat.zero_add] at hn
    exact ⟨⟨hs, hdig, hn ▸ hle⟩, hn.symm⟩
  · rintro ⟨⟨-, hdig, hle⟩, rfl⟩
    rw [parseUintLoop_digits s 0 hdig (by simpa using hle)]
    simp

theorem parseInt_toDigits {n : ℕ} (hn : n < 2 ^ 63) : parseInt (Nat.toDigits 10 n) = .ok n := by
  have hval := decimalValue_toDigits n
  have huint : parseUint (Nat.toDigits 10 n) = .ok n := by
    rw [parseUint, if_neg (toDigits_ne_nil n), parseUintLoop_digits _ 0 (toDigits_isDigit n)
      (by simp only [maxUint64, hval]; omega)]
    simp [hval]
  obtain ⟨c, l, hcl, hc⟩ := toDigits_head n
  rw [hcl] at huint ⊢
  simp only [parseInt, List.cons_ne_nil, if_false, splitSign_of_isDigit l hc.1, huint]
  simpa using hn

/-- `strconv.Atoi(s)` with its error dropped, as the handlers read it: the value of a decimal
numeral with an optional sign, the nearest `int` to an out-of-range one, and 0 for anything else.
`Atoi`'s fast path for text of fewer than 19 bytes computes the value `ParseInt` does. -/
def atoi (s : String) : BitVec 64 :=
  match parseInt s.data with
  | .ok i => BitVec.ofInt 64 i
  | .error .errRange =>
      if (splitSign s.data).1 then BitVec.ofInt 64 (-2 ^ 63) else BitVec.ofInt 64 (2 ^ 63 - 1)
  | .error .errSyntax => 0

theorem atoi_toDigits {n : ℕ} (hn : n < 2 ^ 63) : atoi ⟨Nat.toDigits 10 n⟩ = BitVec.ofNat 64 n := by
  simp only [atoi, parseInt_toDigits hn, BitVec.ofInt_natCast]

example : atoi "-7" = BitVec.ofInt 64 (-7) := by decide
example : atoi "20x" = 0 := by decide
example : atoi "99999999999999999999" = BitVec.ofInt 64 (2 ^ 63 - 1) := by decide

/-! ## `fmt` -/

/-- `SkipSpace` in a `Sscanf` scan: drop leading spaces; a newline, also after a carriage return,
is an error there (`Sscanf` does not read newlines as space). -/
def skipSpace : List Char → Except String (List Char)
  | [] => .ok []
  | c :: rest =>
      if c = '\n' ∨ (c = '\r' ∧ rest.head? = some '\n') then .error "unexpected newline"
      else if isSpace c then skipSpace rest
      else .ok (c :: rest)

/-- The text of the `*strconv.NumError` that `strconv.<func>` returns for the token `tok` (quoted
as `strconv.Quote` does for a token of signs and digits). -/
def NumError.message (func : String) (tok : List Char) : NumError → String
  | .errSyntax => "strconv." ++ func ++ ": parsing \"" ++ ⟨tok⟩ ++ "\": invalid syntax"
  | .errRange => "strconv." ++ func ++ ": parsing \"" ++ ⟨tok⟩ ++ "\": value out of range"

/-- `fmt.Sscanf(s, "%d", &i)` into a Go `int`: skip spaces, take an optional sign and the longest
run of decimal digits, and parse that token with `ParseInt`; the rest of `s` is ignored. -/
def sscanInt (s : String) : Except String ℤ :=
  match skipSpace s.data with
  | .error e => .error e
  | .ok [] => .error "unexpected EOF"
  | .ok (c :: cs) =>
      let (sgn, body) := if c = '+' ∨ c = '-' then ([c], cs) else ([], c :: cs)
      let tok := body.takeWhile Char.isDigit
      if body = [] then .error "unexpected EOF"
      else if tok = [] then .error "expected integer"
      else match parseInt (sgn ++ tok) with
        | .ok i => .ok i
        | .error e => .error (e.message "ParseInt" (sgn ++ tok))

/-- `fmt.Sprintf("%d", i)` for a Go integer. -/
def sprintfD (i : ℤ) : String := ⟨(if i < 0 then ['-'] else []) ++ Nat.toDigits 10 i.natAbs⟩

/-- `fmt.Sprintf("%X", i)`: upper-case hexadecimal digits. -/
def sprintfX (i : ℤ) : String :=
  ⟨(if i < 0 then ['-'] else []) ++ (Nat.toDigits 16 i.natAbs).map Char.toUpper⟩

/-- Scanning the numeral of a 63-bit natural number with `%d` gives the number back. -/
theorem sscanInt_toDigits {n : ℕ} (hn : n < 2 ^ 63) : sscanInt ⟨Nat.toDigits 10 n⟩ = .ok n := by
  obtain ⟨c, l, hcl, hc⟩ := toDigits_head n
  have hsep : c ≠ '\n' ∧ c ≠ '\r' ∧ isSpace c = false ∧ c ≠ '+' ∧ c ≠ '-' := by
    have := hc.2; simp only [isSpaceOrSep, Bool.or_eq_false_iff, beq_eq_false_iff_ne] at this
    refine ⟨?_, ?_, this.1.1.1.1, this.1.1.1.2, this.1.1.2⟩ <;> rintro rfl <;> revert this <;>
      decide
  have htake : (c :: l).takeWhile Char.isDigit = c :: l :=
    List.takeWhile_eq_self_iff.mpr fun d hd => toDigits_isDigit n d (by rwa [hcl])
  have hparse := parseInt_toDigits hn
  rw [hcl] at hparse
  simp only [sscanInt, hcl, skipSpace, hsep.1, hsep.2.1, false_and, or_false, if_false, hsep.2.2.1,
    Bool.false_eq_true, hsep.2.2.2.1, hsep.2.2.2.2, htake, List.nil_append, hparse,
    List.cons_ne_nil]

theorem sprintfD_injective : Function.Injective sprintfD := by
  intro a b h
  have hd := congrArg String.data h
  simp only [sprintfD] at hd
  have hminus : ∀ m n, ¬ ['-'] ++ Nat.toDigits 10 m = [] ++ Nat.toDigits 10 n := by
    intro m n h
    obtain ⟨c, l, hcl, hc⟩ := toDigits_head n
    rw [hcl, List.nil_append, List.singleton_append, List.cons.injEq] at h
    have := hc.2; rw [← h.1] at this; exact absurd this (by decide)
  by_cases ha : a < 0 <;> by_cases hb : b < 0 <;> simp only [ha, hb, if_true, if_false] at hd
  · have := toDigits_injective (List.cons.inj hd).2; omega
  · exact absurd hd (hminus _ _)
  · exact absurd hd.symm (hminus _ _)
  · have := toDigits_injective hd; omega

end GoNms.Go
