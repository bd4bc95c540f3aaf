import GoNms.Go.Fmt
import Mathlib.Tactic.IntervalCases
import Mathlib.Tactic.Ring

set_option autoImplicit false

/-! # Package `net`: addresses and networks

A `net.IP` is its byte slice: four bytes for an IPv4 address, sixteen for an IPv6 one, and an IPv4
address in sixteen-byte form carries the prefix `::ffff:`. A `net.IPMask` is a byte slice in the
same way. Go's nil slice is the empty list. `To4` and `Mask` return nil when they fail, and every
length test the code makes sees nil as length zero.

The functions are those that `ScanSubnet` reaches: `ParseCIDR` after its address grammar,
`IP.Mask`, `IP.To4`, `CIDRMask`, `networkNumberAndMask`, `IPNet.Contains` and `IP.String`. `ipValue` reads an
address as the number it denotes, first byte most significant. The lemmas below say what each
function does to that number: a mask of `n` ones keeps the quotient by `2 ^ (bits - n)`
(`ipValue_zipWith_and_cidrMaskBytes`), and `To4` recognises the block
`::ffff:0:0/96` (`to4_of_length_sixteen`). -/

namespace GoNms.Go

/-- `net.IP`. -/
abbrev IP := List (BitVec 8)

/-- `net.IPMask`. -/
abbrev IPMask := List (BitVec 8)

/-- `v4InV6Prefix`: the twelve bytes that put an IPv4 address in sixteen-byte form. -/
def v4InV6Prefix : IP := [0, 0, 0, 0, 0, 0, 0, 0, 0, 0, 0xff, 0xff]

/-- `IP.To4`: the four-byte form of an IPv4 address, nil for any other address. -/
def IP.to4 (ip : IP) : IP :=
  if ip.length = 4 then ip
  else if ip.length = 16 ∧ (ip.take 10).all (· == 0) ∧ ip[10]? = some 0xff ∧ ip[11]? = some 0xff
  then ip.drop 12
  else []

/-- `IP.Mask`: the bitwise and of the address and the mask. When one is IPv4 and the other sixteen
bytes long, the sixteen-byte one is first cut to its last four bytes; the result is nil when the
lengths still differ. -/
def IP.mask (ip : IP) (mask : IPMask) : IP :=
  let mask := if mask.length = 16 ∧ ip.length = 4 ∧ (mask.take 12).all (· == 0xff)
    then mask.drop 12 else mask
  let ip := if mask.length = 4 ∧ ip.length = 16 ∧ ip.take 12 = v4InV6Prefix then ip.drop 12 else ip
  if ip.length = mask.length then List.zipWith (· &&& ·) ip mask else []

/-- The loop of `CIDRMask`: `l` bytes whose first `n` bits are set. -/
def cidrMaskBytes : ℕ → ℕ → IPMask
  | 0, _ => []
  | l + 1, n =>
      if 8 ≤ n then 0xff :: cidrMaskBytes l (n - 8) else ~~~((0xff : BitVec 8) >>> n) :: cidrMaskBytes l 0

/-- `CIDRMask(ones, bits)`; its callers pass `ones ≥ 0`. -/
def cidrMask (ones bits : ℕ) : IPMask :=
  if bits ≠ 32 ∧ bits ≠ 128 then [] else if ones > bits then [] else cidrMaskBytes (bits / 8) ones

/-- `net.IPNet`. -/
structure IPNet where
  ip : IP
  mask : IPMask

/-- `networkNumberAndMask`: the network's address, in four-byte form when it is IPv4, and its mask
cut to the same length; two nils for an ill-formed network. -/
def networkNumberAndMask (n : IPNet) : IP × IPMask :=
  let ip := if n.ip.to4 = [] then n.ip else n.ip.to4
  if n.ip.to4 = [] ∧ ip.length ≠ 16 then ([], [])
  else if n.mask.length = 4 then (if ip.length ≠ 4 then ([], []) else (ip, n.mask))
  else if n.mask.length = 16 then (ip, if ip.length = 4 then n.mask.drop 12 else n.mask)
  else ([], [])

/-- `IPNet.Contains`: the address, in four-byte form when it is IPv4, has the network number's
length and agrees with it under the mask. -/
def IPNet.contains (n : IPNet) (ip : IP) : Bool :=
  let nm := networkNumberAndMask n
  let ip := if ip.to4 = [] then ip else ip.to4
  decide (ip.length = nm.1.length) &&
    List.zipWith (· &&& ·) nm.1 nm.2 == List.zipWith (· &&& ·) ip nm.2

/-! ## `ParseCIDR` -/

/-- An address that `netip.ParseAddr` accepts: four bytes, or sixteen. An IPv4-mapped IPv6 address
stays an IPv6 address. -/
inductive Addr where
  | v4 (bytes : IP) (h : bytes.length = 4)
  | v6 (bytes : IP) (h : bytes.length = 16)

/-- `Addr.As16`. -/
def Addr.as16 : Addr → IP
  | .v4 bytes _ => v4InV6Prefix ++ bytes
  | .v6 bytes _ => bytes

/-- `Addr.AsSlice`: the address's own bytes. -/
def Addr.asSlice : Addr → IP
  | .v4 bytes _ => bytes
  | .v6 bytes _ => bytes

/-- `Addr.Is4`. -/
def Addr.is4 : Addr → Bool
  | .v4 .. => true
  | .v6 .. => false

/-- The address length `iplen` of `ParseCIDR`: `IPv4len` when the address `Is4`, else `IPv6len`. -/
def Addr.ipLen : Addr → ℕ
  | .v4 .. => 4
  | .v6 .. => 16

/-- A string that `ParseCIDR` accepts, as `ParseCIDR` reads it: an address without a zone, and a
decimal prefix length of at most `8*iplen`. -/
structure CIDR where
  addr : Addr
  ones : ℕ
  ones_le : ones ≤ 8 * addr.ipLen

/-- `net.ParseCIDR` on an accepted string: the address in sixteen-byte form, and the network of
the masked address and `CIDRMask(ones, 8*iplen)`. -/
def parseCIDR (c : CIDR) : IP × IPNet :=
  let m := cidrMask c.ones (8 * c.addr.ipLen)
  (c.addr.as16, ⟨IP.mask c.addr.as16 m, m⟩)

/-! ## The number of an address -/

/-- The number an address denotes, its first byte most significant. -/
def ipValue : IP → ℕ
  | [] => 0
  | b :: l => b.toNat * 256 ^ l.length + ipValue l

theorem ipValue_lt (ip : IP) : ipValue ip < 256 ^ ip.length := by
  induction ip with
  | nil => exact Nat.one_pos
  | cons b l ih =>
      have hb : b.toNat + 1 ≤ 256 := b.isLt
      calc b.toNat * 256 ^ l.length + ipValue l < (b.toNat + 1) * 256 ^ l.length := by
            rw [Nat.succ_mul]; omega
        _ ≤ 256 ^ (b :: l).length := by
            rw [List.length_cons, pow_succ']; exact Nat.mul_le_mul_right _ hb

theorem ipValue_append (l r : IP) : ipValue (l ++ r) = ipValue l * 256 ^ r.length + ipValue r := by
  induction l with
  | nil => simp [ipValue]
  | cons b l ih =>
      rw [List.cons_append, ipValue, ih, ipValue, List.length_append, pow_add]
      ring

/-- The first byte of an address is its number's quotient by `256 ^ rest.length`, and the rest's
number is the remainder. -/
theorem ipValue_cons_div_mod (z : BitVec 8) (c : IP) :
    ipValue (z :: c) / 256 ^ c.length = z.toNat ∧ ipValue (z :: c) % 256 ^ c.length = ipValue c := by
  have hlt := ipValue_lt c
  rw [ipValue, Nat.add_comm, Nat.add_mul_div_right _ _ (Nat.pos_pow_of_pos _ (by norm_num)),
    Nat.div_eq_of_lt hlt, Nat.add_mul_mod_self_right, Nat.mod_eq_of_lt hlt]
  exact ⟨Nat.zero_add _, rfl⟩

/-- Addresses of one length are equal when their numbers are. -/
theorem eq_of_ipValue_eq {a b : IP} (hlen : a.length = b.length) (h : ipValue a = ipValue b) :
    a = b := by
  induction a generalizing b with
  | nil => exact (List.length_eq_zero.mp hlen.symm).symm
  | cons x a ih =>
      obtain _ | ⟨y, b⟩ := b
      · cases hlen
      · have hlen : a.length = b.length := Nat.succ.inj hlen
        obtain ⟨hx, ha⟩ := ipValue_cons_div_mod x a
        obtain ⟨hy, hb⟩ := ipValue_cons_div_mod y b
        rw [h, hlen] at hx ha
        rw [BitVec.eq_of_toNat_eq (hx.symm.trans hy), ih hlen (ha.symm.trans hb)]

/-! ## Masks -/

private theorem testBit_and_shiftLeft_two_pow_sub_one {a n k : ℕ} (ha : a < 2 ^ (n + k)) (i : ℕ) :
    (a &&& (2 ^ n - 1) <<< k).testBit i = (a / 2 ^ k * 2 ^ k).testBit i := by
  rw [Nat.testBit_and, Nat.testBit_shiftLeft, Nat.testBit_two_pow_sub_one,
    ← Nat.shiftRight_eq_div_pow, ← Nat.shiftLeft_eq, Nat.testBit_shiftLeft, Nat.testBit_shiftRight]
  by_cases hik : k ≤ i
  · rw [Nat.add_sub_cancel' hik]
    by_cases hi : i < n + k
    · simp [hik, show i - k < n by omega]
    · rw [Nat.testBit_lt_two_pow (ha.trans_le (Nat.pow_le_pow_right (by norm_num) (by omega)))]
      simp
  · simp [hik]

theorem toNat_and_not_ushiftRight (b : BitVec 8) {n : ℕ} (hn : n < 8) :
    (b &&& ~~~((0xff : BitVec 8) >>> n)).toNat = b.toNat / 2 ^ (8 - n) * 2 ^ (8 - n) := by
  have hc : (~~~((0xff : BitVec 8) >>> n)).toNat = (2 ^ n - 1) <<< (8 - n) := by
    interval_cases n <;> decide
  rw [BitVec.toNat_and, hc]
  refine Nat.eq_of_testBit_eq (testBit_and_shiftLeft_two_pow_sub_one ?_)
  rw [Nat.add_sub_cancel' hn.le]
  exact b.isLt

@[simp] theorem length_cidrMaskBytes (l n : ℕ) : (cidrMaskBytes l n).length = l := by
  induction l generalizing n with
  | zero => rfl
  | succ l ih => unfold cidrMaskBytes; split_ifs <;> simp [ih]

theorem toNat_and_allOnes (b : BitVec 8) : (b &&& 0xff).toNat = b.toNat := by
  rw [show (0xff : BitVec 8) = BitVec.allOnes 8 from rfl, BitVec.and_allOnes]

private theorem add_div_two_pow_mul (x v j k : ℕ) :
    (x * 2 ^ (j + k) + v) / 2 ^ k * 2 ^ k = x * 2 ^ (j + k) + v / 2 ^ k * 2 ^ k := by
  rw [pow_add, ← mul_assoc, Nat.add_comm, Nat.add_mul_div_right _ _ (Nat.two_pow_pos k)]
  ring

/-- A mask of `n` ones keeps the quotient of the address by `2 ^ (bits - n)`. -/
theorem ipValue_zipWith_and_cidrMaskBytes (ip : IP) (n : ℕ) (hn : n ≤ 8 * ip.length) :
    ipValue (List.zipWith (· &&& ·) ip (cidrMaskBytes ip.length n)) =
      ipValue ip / 2 ^ (8 * ip.length - n) * 2 ^ (8 * ip.length - n) := by
  induction ip generalizing n with
  | nil => simp [ipValue]
  | cons b l ih =>
      have hpow : 256 ^ l.length = 2 ^ (8 * l.length) := by rw [pow_mul]; rfl
      have hlen : ∀ m, (List.zipWith (· &&& ·) l (cidrMaskBytes l.length m)).length = l.length :=
        fun m => by simp
      rw [List.length_cons] at hn ⊢
      rw [cidrMaskBytes]
      split_ifs with h8
      · rw [List.zipWith_cons_cons, ipValue, ipValue, hlen, ih (n - 8) (by omega),
          toNat_and_allOnes, hpow, show 8 * l.length - (n - 8) = 8 * (l.length + 1) - n by omega,
          show 8 * l.length = (8 * l.length - (8 * (l.length + 1) - n)) + (8 * (l.length + 1) - n)
            by omega, add_div_two_pow_mul]
      · have hlt : ipValue l < 2 ^ (8 * l.length) := hpow ▸ ipValue_lt l
        rw [List.zipWith_cons_cons, ipValue, ipValue, hlen, ih 0 (Nat.zero_le _),
          toNat_and_not_ushiftRight b (by omega), hpow, Nat.sub_zero, Nat.div_eq_of_lt hlt,
          show 8 * (l.length + 1) - n = 8 * l.length + (8 - n) by omega, pow_add,
          ← Nat.div_div_eq_div_mul, Nat.add_comm (b.toNat * _),
          Nat.add_mul_div_right _ _ (Nat.two_pow_pos _), Nat.div_eq_of_lt hlt]
        rw [Nat.zero_add]
        ring

/-- Addresses of one length agree under a mask of `n` ones exactly when their quotients by
`2 ^ (bits - n)` do. -/
theorem zipWith_and_cidrMaskBytes_eq_iff {a b : IP} (hlen : a.length = b.length) {n : ℕ}
    (hn : n ≤ 8 * a.length) :
    List.zipWith (· &&& ·) a (cidrMaskBytes a.length n) =
        List.zipWith (· &&& ·) b (cidrMaskBytes a.length n) ↔
      ipValue a / 2 ^ (8 * a.length - n) = ipValue b / 2 ^ (8 * a.length - n) := by
  have hb := ipValue_zipWith_and_cidrMaskBytes b n (hlen ▸ hn)
  rw [← hlen] at hb
  constructor
  · intro h
    have hv := congrArg ipValue h
    rw [ipValue_zipWith_and_cidrMaskBytes a n hn, hb] at hv
    exact Nat.eq_of_mul_eq_mul_right (Nat.two_pow_pos _) hv
  · intro h
    refine eq_of_ipValue_eq (by simp [hlen]) ?_
    rw [ipValue_zipWith_and_cidrMaskBytes a n hn, hb, h]

/-- Masking twice is masking once. -/
theorem zipWith_and_zipWith_and_self (a m : IP) :
    List.zipWith (· &&& ·) (List.zipWith (· &&& ·) a m) m = List.zipWith (· &&& ·) a m := by
  induction a generalizing m with
  | nil => rfl
  | cons x a ih =>
      cases m with
      | nil => rfl
      | cons y m => simp only [List.zipWith_cons_cons, ih, BitVec.and_assoc, BitVec.and_self]

/-! ## `To4` -/

theorem to4_of_length_four {ip : IP} (h : ip.length = 4) : ip.to4 = ip := if_pos h

private theorem to4_test_iff {ip : IP} (h : ip.length = 16) :
    ((ip.take 10).all (· == 0) ∧ ip[10]? = some 0xff ∧ ip[11]? = some 0xff) ↔
      ip.take 12 = v4InV6Prefix := by
  match ip, h with
  | [a0, a1, a2, a3, a4, a5, a6, a7, a8, a9, a10, a11, _, _, _, _], _ =>
      simp [v4InV6Prefix, and_assoc]

/-- A sixteen-byte address has a four-byte form exactly when it starts with `v4InV6Prefix`. -/
theorem to4_of_length_sixteen {ip : IP} (h : ip.length = 16) :
    ip.to4 = if ip.take 12 = v4InV6Prefix then ip.drop 12 else [] := by
  rw [IP.to4, if_neg (by omega)]
  exact if_congr ((and_iff_right h).trans (to4_test_iff h)) rfl rfl

/-- The first twelve bytes of a sixteen-byte address are its number's quotient by `2 ^ 32`, so the
addresses with prefix `v4InV6Prefix` are the block `::ffff:0:0/96`. -/
theorem take_eq_v4InV6Prefix_iff {ip : IP} (h : ip.length = 16) :
    ip.take 12 = v4InV6Prefix ↔ ipValue ip / 2 ^ 32 = 0xffff := by
  have hlow : ipValue (ip.drop 12) < 2 ^ 32 := by
    simpa [h] using ipValue_lt (ip.drop 12)
  have hval : ipValue ip / 2 ^ 32 = ipValue (ip.take 12) := by
    conv_lhs => rw [← List.take_append_drop 12 ip]
    rw [ipValue_append, List.length_drop, h, Nat.add_comm, show 256 ^ (16 - 12) = 2 ^ 32 from rfl,
      Nat.add_mul_div_right _ _ (Nat.two_pow_pos _), Nat.div_eq_of_lt hlow, Nat.zero_add]
  rw [hval]
  exact ⟨fun hp => hp ▸ rfl, fun hv => eq_of_ipValue_eq (by simp [h]; rfl) hv⟩

/-! ## The networks of `ParseCIDR` -/

theorem parseCIDR_v4 (bytes : IP) (h : bytes.length = 4) (ones : ℕ) (hn : ones ≤ 8 * 4) :
    parseCIDR ⟨.v4 bytes h, ones, hn⟩ = (v4InV6Prefix ++ bytes,
      ⟨List.zipWith (· &&& ·) bytes (cidrMaskBytes 4 ones), cidrMaskBytes 4 ones⟩) := by
  simp [parseCIDR, cidrMask, IP.mask, Addr.as16, Addr.ipLen, not_lt.mpr hn, h, List.take_left',
    v4InV6Prefix]

theorem contains_parseCIDR_v4 (bytes : IP) (h : bytes.length = 4) (ones : ℕ) (hn : ones ≤ 8 * 4)
    {ip : IP} (hip : ip.length = 4) :
    (parseCIDR ⟨.v4 bytes h, ones, hn⟩).2.contains ip = true ↔
      ipValue ip / 2 ^ (8 * 4 - ones) = ipValue bytes / 2 ^ (8 * 4 - ones) := by
  have hnet : (List.zipWith (· &&& ·) bytes (cidrMaskBytes 4 ones)).length = 4 := by simp [h]
  rw [parseCIDR_v4, IPNet.contains, networkNumberAndMask]
  have key := zipWith_and_cidrMaskBytes_eq_iff (h.trans hip.symm) (n := ones) (by omega)
  rw [h] at key
  simpa [to4_of_length_four hnet, to4_of_length_four hip, hnet, hip, ← List.length_eq_zero,
    zipWith_and_zipWith_and_self] using key.trans eq_comm
  

theorem parseCIDR_v6 (bytes : IP) (h : bytes.length = 16) (ones : ℕ) (hn : ones ≤ 8 * 16) :
    parseCIDR ⟨.v6 bytes h, ones, hn⟩ = (bytes,
      ⟨List.zipWith (· &&& ·) bytes (cidrMaskBytes 16 ones), cidrMaskBytes 16 ones⟩) := by
  simp [parseCIDR, cidrMask, IP.mask, Addr.as16, Addr.ipLen, not_lt.mpr hn, h]

/-- Addresses that agree on their first `j` bytes agree under a mask exactly when the rest do. -/
theorem zipWith_and_eq_iff_of_take_eq {a b m : IP} {j : ℕ} (ht : a.take j = b.take j)
    (ha : j ≤ a.length) (hm : j ≤ m.length) :
    List.zipWith (· &&& ·) a m = List.zipWith (· &&& ·) b m ↔
      List.zipWith (· &&& ·) (a.drop j) (m.drop j) = List.zipWith (· &&& ·) (b.drop j) (m.drop j) := by
  have hlen : ∀ c : IP, j ≤ c.length → (c.take j).length = (m.take j).length := fun c hc => by
    simp [List.length_take, hc, hm]
  have hb : j ≤ b.length := by
    have htb := congrArg List.length ht
    simp only [List.length_take] at htb
    omega
  conv_lhs => rw [← List.take_append_drop j a, ← List.take_append_drop j b, ← List.take_append_drop j m,
    List.zipWith_append _ _ _ _ _ (hlen a ha), List.zipWith_append _ _ _ _ _ (hlen b hb), ht,
    List.append_cancel_left_eq]

theorem contains_parseCIDR_v6 (bytes : IP) (h : bytes.length = 16) (ones : ℕ) (hn : ones ≤ 8 * 16)
    {ip : IP} (hip : ip.length = 16) :
    (parseCIDR ⟨.v6 bytes h, ones, hn⟩).2.contains ip = true ↔
      (ipValue ip / 2 ^ 32 = 0xffff ↔
          ipValue bytes / 2 ^ (8 * 16 - ones) * 2 ^ (8 * 16 - ones) / 2 ^ 32 = 0xffff) ∧
        ipValue ip / 2 ^ (8 * 16 - ones) = ipValue bytes / 2 ^ (8 * 16 - ones) := by
  have hnet : (List.zipWith (· &&& ·) bytes (cidrMaskBytes 16 ones)).length = 16 := by simp [h]
  have key := zipWith_and_cidrMaskBytes_eq_iff (h.trans hip.symm) (n := ones) (by omega)
  rw [h, ← zipWith_and_zipWith_and_self bytes] at key
  have hval := ipValue_zipWith_and_cidrMaskBytes bytes ones (by omega)
  rw [h] at hval
  rw [← hval, ← take_eq_v4InV6Prefix_iff hnet, ← take_eq_v4InV6Prefix_iff hip, ← key.trans eq_comm]
  rw [parseCIDR_v6, IPNet.contains, networkNumberAndMask, to4_of_length_sixteen hnet,
    to4_of_length_sixteen hip]
  by_cases hN : (List.zipWith (· &&& ·) bytes (cidrMaskBytes 16 ones)).take 12 = v4InV6Prefix <;>
    by_cases hI : ip.take 12 = v4InV6Prefix
  · rw [zipWith_and_eq_iff_of_take_eq (hN.trans hI.symm) (by omega) (by simp)]
    simp [hN, hI, hnet, hip, ← List.length_eq_zero]
  all_goals simp [hN, hI, hnet, hip, ← List.length_eq_zero]

/-! ## The network in numbers

A network is the block of `2 ^ hostBits` numbers from `first`, a multiple of `2 ^ hostBits`. -/

/-- The bits the mask leaves to the hosts. -/
def CIDR.hostBits (c : CIDR) : ℕ := 8 * c.addr.ipLen - c.ones

/-- The number of the network's first address: the address with its host bits cleared. -/
def CIDR.first (c : CIDR) : ℕ := ipValue c.addr.asSlice / 2 ^ c.hostBits * 2 ^ c.hostBits

section Blocks

variable {q k i : ℕ}

theorem mul_two_pow_add_div (q : ℕ) (hi : i < 2 ^ k) : (q * 2 ^ k + i) / 2 ^ k = q := by
  rw [Nat.add_comm, Nat.add_mul_div_right _ _ (Nat.two_pow_pos k), Nat.div_eq_of_lt hi,
    Nat.zero_add]

theorem mul_two_pow_add_le {W : ℕ} (hq : q < 2 ^ (W - k)) (hk : k ≤ W) :
    q * 2 ^ k + 2 ^ k ≤ 2 ^ W :=
  calc q * 2 ^ k + 2 ^ k = (q + 1) * 2 ^ k := (Nat.succ_mul q _).symm
    _ ≤ 2 ^ (W - k) * 2 ^ k := Nat.mul_le_mul_right _ hq
    _ = 2 ^ W := by rw [← pow_add, Nat.sub_add_cancel hk]

theorem div_two_pow_lt {v W : ℕ} (hv : v < 2 ^ W) (hk : k ≤ W) : v / 2 ^ k < 2 ^ (W - k) := by
  rw [Nat.div_lt_iff_lt_mul (Nat.two_pow_pos k), ← pow_add, Nat.sub_add_cancel hk]
  exact hv

/-- The address after the block is outside it: it is either the start of the next block, or zero
after a wrap, which lies in the block only when the block is everything. -/
theorem next_block_div_ne {W : ℕ} (hk : k < W) (hq : q < 2 ^ (W - k)) :
    (q * 2 ^ k + 2 ^ k) % 2 ^ W / 2 ^ k ≠ q := by
  rcases (mul_two_pow_add_le hq hk.le).lt_or_eq with hlt | heq
  · rw [Nat.mod_eq_of_lt hlt, ← Nat.succ_mul, Nat.mul_div_cancel _ (Nat.two_pow_pos k)]
    exact Nat.succ_ne_self q
  · rw [heq, Nat.mod_self, Nat.zero_div]
    rintro rfl
    rw [Nat.zero_mul, Nat.zero_add] at heq
    exact hk.ne (Nat.pow_right_injective (le_refl 2) heq)

end Blocks

theorem two_fifty_six_pow (n : ℕ) : 256 ^ n = 2 ^ (8 * n) := by
  rw [pow_mul]; rfl

theorem length_asSlice (a : Addr) : a.asSlice.length = a.ipLen := by
  cases a with
  | v4 _ h => exact h
  | v6 _ h => exact h

/-- The quotient of the address by `2 ^ hostBits` numbers the network among the blocks of its size. -/
theorem CIDR.quotient_lt (c : CIDR) :
    ipValue c.addr.asSlice / 2 ^ c.hostBits < 2 ^ (8 * c.addr.ipLen - c.hostBits) := by
  refine div_two_pow_lt ?_ (Nat.sub_le _ _)
  rw [← two_fifty_six_pow, ← length_asSlice]
  exact ipValue_lt _

/-- The network ends within the address space. -/
theorem CIDR.first_add_le (c : CIDR) : c.first + 2 ^ c.hostBits ≤ 2 ^ (8 * c.addr.ipLen) :=
  mul_two_pow_add_le c.quotient_lt (Nat.sub_le _ _)

/-- The network's numbers share the first one's quotient by `2 ^ hostBits`. -/
theorem CIDR.first_add_div (c : CIDR) {i : ℕ} (hi : i < 2 ^ c.hostBits) :
    (c.first + i) / 2 ^ c.hostBits = c.first / 2 ^ c.hostBits := by
  rw [CIDR.first, mul_two_pow_add_div _ hi, Nat.mul_div_cancel _ (Nat.two_pow_pos _)]

/-- The number after the network's last one, modulo `2 ^ bits`, has another quotient, unless the
prefix is empty. -/
theorem CIDR.next_div_ne (c : CIDR) (hk : 0 < c.ones) :
    (c.first + 2 ^ c.hostBits) % 2 ^ (8 * c.addr.ipLen) / 2 ^ c.hostBits ≠
      c.first / 2 ^ c.hostBits := by
  have hlen : 0 < c.addr.ipLen := by cases c.addr <;> exact Nat.succ_pos _
  rw [CIDR.first, Nat.mul_div_cancel _ (Nat.two_pow_pos _)]
  exact next_block_div_ne (by unfold CIDR.hostBits; omega) c.quotient_lt

/-- With an empty prefix the network starts at zero. -/
theorem CIDR.first_eq_zero (c : CIDR) (h : c.ones = 0) : c.first = 0 := by
  have hq := c.quotient_lt
  rw [CIDR.hostBits, h, Nat.sub_zero, Nat.sub_self, pow_zero, Nat.lt_one_iff] at hq
  rw [CIDR.first, CIDR.hostBits, h, Nat.sub_zero, hq, Nat.zero_mul]

section Families

variable (c : CIDR) {bytes : IP}

/-- An IPv4 network: its number is the first address, and it contains the four-byte addresses
with the first address's quotient by `2 ^ hostBits`. -/
theorem network_v4 {h : bytes.length = 4} (hc : c.addr = .v4 bytes h) :
    (parseCIDR c).2.ip.length = c.addr.ipLen ∧ ipValue (parseCIDR c).2.ip = c.first ∧
      ∀ ip : IP, ip.length = c.addr.ipLen →
        ((parseCIDR c).2.contains ip = true ↔ ipValue ip / 2 ^ c.hostBits = c.first / 2 ^ c.hostBits) := by
  obtain ⟨addr, ones, hn⟩ := c
  cases hc
  have hval := ipValue_zipWith_and_cidrMaskBytes bytes ones (h ▸ hn)
  rw [h] at hval
  rw [CIDR.first, CIDR.hostBits, Addr.asSlice, Addr.ipLen, Nat.mul_div_cancel _ (Nat.two_pow_pos _)]
  refine ⟨?_, ?_, fun ip hip => contains_parseCIDR_v4 bytes h ones hn hip⟩ <;> rw [parseCIDR_v4]
  · simp [h]
  · exact hval

/-- An IPv6 network: its number is the first address, and it contains the sixteen-byte addresses
with the first address's quotient by `2 ^ hostBits` that lie in `::ffff:0:0/96` exactly when the
first address does. -/
theorem network_v6 {h : bytes.length = 16} (hc : c.addr = .v6 bytes h) :
    (parseCIDR c).2.ip.length = c.addr.ipLen ∧ ipValue (parseCIDR c).2.ip = c.first ∧
      ∀ ip : IP, ip.length = c.addr.ipLen → ((parseCIDR c).2.contains ip = true ↔
        (ipValue ip / 2 ^ 32 = 0xffff ↔ c.first / 2 ^ 32 = 0xffff) ∧
          ipValue ip / 2 ^ c.hostBits = c.first / 2 ^ c.hostBits) := by
  obtain ⟨addr, ones, hn⟩ := c
  cases hc
  have hval := ipValue_zipWith_and_cidrMaskBytes bytes ones (h ▸ hn)
  rw [h] at hval
  rw [CIDR.first, CIDR.hostBits, Addr.asSlice, Addr.ipLen, Nat.mul_div_cancel _ (Nat.two_pow_pos _)]
  refine ⟨?_, ?_, fun ip hip => contains_parseCIDR_v6 bytes h ones hn hip⟩ <;> rw [parseCIDR_v6]
  · simp [h]
  · exact hval

end Families

/-! ## `IP.String`

`String` writes an IPv4 address, or one in `::ffff:0:0/96`, in dotted decimal (`string4`), and any
other sixteen-byte address as eight hexadecimal groups with the first longest run of two or more
zero groups written `::` (`string6`, the two loops of `netip.Addr.appendTo6`). Dotted decimal
determines the address (`string_inj_of_length_four`). -/

/-- `hexString`: two lowercase hexadecimal digits per byte. -/
def hexString (b : IP) : List Char :=
  b.flatMap fun x => [Nat.digitChar (x.toNat / 16), Nat.digitChar (x.toNat % 16)]

/-- `Addr.appendTo4`: the bytes in decimal, joined by dots. -/
def string4 (b : IP) : List Char := List.intercalate ['.'] (b.map fun x => Nat.toDigits 10 x.toNat)

/-- `Addr.v6u16`: the `i`th sixteen-bit group. -/
def v6u16 (b : IP) (i : ℕ) : ℕ := (b.getD (2 * i) 0).toNat * 256 + (b.getD (2 * i + 1) 0).toNat

/-- The first loop of `appendTo6`: `(zeroStart, zeroEnd)` of the first longest run of two or more
zero groups, `(255, 255)` when there is none. -/
def zeroRun (b : IP) : ℕ × ℕ :=
  (List.range 8).foldl (fun z i =>
    let j := i + ((List.range' i (8 - i)).takeWhile (v6u16 b · = 0)).length
    if 2 ≤ j - i ∧ z.2 - z.1 < j - i then (i, j) else z) (255, 255)

/-- The second loop of `appendTo6` from group `i`, with `fuel` iterations left: the groups in
hexadecimal (`appendHex`), separated by colons, and `::` in place of the zero run. -/
def appendTo6 (b : IP) (zeroStart zeroEnd : ℕ) : ℕ → ℕ → List Char
  | 0, _ => []
  | fuel + 1, i =>
      if i < 8 then
        if i = zeroStart then
          if 8 ≤ zeroEnd then [':', ':']
          else [':', ':'] ++ Nat.toDigits 16 (v6u16 b zeroEnd) ++
            appendTo6 b zeroStart zeroEnd fuel (zeroEnd + 1)
        else (if 0 < i then [':'] else []) ++ Nat.toDigits 16 (v6u16 b i) ++
          appendTo6 b zeroStart zeroEnd fuel (i + 1)
      else []

/-- `Addr.string6`. -/
def string6 (b : IP) : List Char := appendTo6 b (zeroRun b).1 (zeroRun b).2 8 0

/-- `IP.String`. A sixteen-byte address that `To4` does not shorten is outside `::ffff:0:0/96`, so
`netip.Addr.String` takes its `string6` branch. -/
def IP.string (ip : IP) : String :=
  if ip.length = 0 then "<nil>"
  else if ip.length ≠ 4 ∧ ip.length ≠ 16 then ⟨'?' :: hexString ip⟩
  else if ip.to4.length = 4 then ⟨string4 ip.to4⟩
  else ⟨string6 ip⟩

example : IP.string ([0x20, 0x01, 0x0d, 0xb8] ++ List.replicate 12 0) = "2001:db8::" := by decide

theorem string4_injective : Function.Injective string4 := by
  have hdot : ∀ (l : IP), ∀ d ∈ l.map fun x => Nat.toDigits 10 x.toNat, '.' ∉ d := by
    intro l d hd hmem
    obtain ⟨x, -, rfl⟩ := List.mem_map.mp hd
    exact absurd (toDigits_isDigit _ _ hmem) (by decide)
  have hsplit : ∀ (x : BitVec 8) (l : IP),
      (string4 (x :: l)).splitOn '.' = (x :: l).map fun x => Nat.toDigits 10 x.toNat :=
    fun x l => List.splitOn_intercalate _ '.' (hdot _) (List.cons_ne_nil _ _)
  have hne : ∀ (x : BitVec 8) (l : IP), string4 (x :: l) ≠ [] := fun x l h => by
    have := hsplit x l
    rw [h] at this
    simp only [List.splitOn_nil, List.map_cons, List.cons.injEq] at this
    exact toDigits_ne_nil _ this.1.symm
  intro a b h
  cases a with
  | nil => cases b with
    | nil => rfl
    | cons y ys => exact absurd h.symm (hne y ys)
  | cons x xs => cases b with
    | nil => exact absurd h (hne x xs)
    | cons y ys =>
        exact List.map_injective_iff.mpr (toDigits_injective.comp fun _ _ => BitVec.eq_of_toNat_eq)
          ((hsplit x xs).symm.trans (by rw [h]; exact hsplit y ys))

/-- Two IPv4 addresses with the same text are the same address. -/
theorem string_inj_of_length_four {a b : IP} (ha : a.length = 4) (hb : b.length = 4)
    (h : a.string = b.string) : a = b := by
  simp only [IP.string, ha, hb, to4_of_length_four ha, to4_of_length_four hb] at h
  exact string4_injective (congrArg String.data h)

end GoNms.Go
