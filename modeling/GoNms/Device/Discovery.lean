import GoNms.Go.Net

set_option autoImplicit false

/-! # Subnet discovery

`discoveryService.ScanSubnet` parses a CIDR and runs its `for` loop from the masked network
address. The loop advances with `inc` while `ipnet.Contains(ip)`, and starts one ping goroutine per
address it visits. The model keeps the loop: `scanSubnet` returns the visited addresses, or `none`
when the fuel runs out before the loop ends. The pings, and the devices they record, are left out.

Read as numbers (`ipValue`), the loop visits `first, first + 1, …` modulo `2 ^ bits`
(`ipValue_iterate_inc`). There are three outcomes:
- The loop ends after visiting the whole network (`scanSubnet_network`). This holds for every
  network except the two kinds below.
- IPv4 `/0` never ends (`scanSubnet_v4_zero`). `inc` wraps `255.255.255.255` to `0.0.0.0`, and
  `0.0.0.0/0` contains it.
- An IPv6 network that contains `::ffff:0:0/96` but does not start at it stops at
  `::ffff:0.0.0.0` (`scanSubnet_stops_at_mapped`). `Contains` takes that address in its four-byte
  form, which is not the length of the IPv6 network number. -/

namespace GoNms

open GoNms.Go

/-! ## `inc` -/

/-- The loop of `inc` on the bytes, last byte first: add one to a byte, and carry to the next one
while the byte wraps to zero. -/
def incRev : List (BitVec 8) → List (BitVec 8)
  | [] => []
  | b :: rest => if 0 < b + 1 then (b + 1) :: rest else (b + 1) :: incRev rest

/-- `inc(ip)`, which increments the address in place. -/
def inc (ip : IP) : IP := (incRev ip.reverse).reverse

theorem length_incRev (l : List (BitVec 8)) : (incRev l).length = l.length := by
  induction l with
  | nil => rfl
  | cons b rest ih => unfold incRev; split_ifs <;> simp [ih]

theorem length_inc (ip : IP) : (inc ip).length = ip.length := by
  rw [inc, List.length_reverse, length_incRev, List.length_reverse]

theorem ipValue_singleton (b : BitVec 8) : ipValue [b] = b.toNat := by simp [ipValue]

theorem ipValue_reverse_incRev (l : List (BitVec 8)) :
    ipValue (incRev l).reverse = (ipValue l.reverse + 1) % 256 ^ l.length := by
  induction l with
  | nil => rfl
  | cons b rest ih =>
      have hsucc : (b + 1).toNat = (b.toNat + 1) % 256 := BitVec.toNat_add b 1
      have hzero : (0 : BitVec 8).toNat = 0 := rfl
      have hb := b.isLt
      have hrest := ipValue_lt rest.reverse
      rw [List.length_reverse] at hrest
      rw [incRev, List.reverse_cons, ipValue_append, ipValue_singleton, List.length_singleton,
        pow_one, List.length_cons, pow_succ]
      split_ifs with hpos <;> rw [BitVec.lt_def, hzero] at hpos <;>
        rw [List.reverse_cons, ipValue_append, ipValue_singleton, List.length_singleton, pow_one]
      · have hv : (b + 1).toNat = b.toNat + 1 := by omega
        have hlt : ipValue rest.reverse * 256 + b.toNat + 1 < 256 ^ rest.length * 256 :=
          calc ipValue rest.reverse * 256 + b.toNat + 1 < (ipValue rest.reverse + 1) * 256 := by
                omega
            _ ≤ 256 ^ rest.length * 256 := Nat.mul_le_mul_right _ hrest
        rw [hv, Nat.mod_eq_of_lt hlt, Nat.add_assoc]
      · have hv : (b + 1).toNat = 0 := by omega
        rw [hv, ih, Nat.add_zero, Nat.add_assoc, show b.toNat + 1 = 256 by omega,
          ← Nat.succ_mul, Nat.mul_mod_mul_right]

/-- `inc` adds one to the address's number, wrapping to zero past the last address. -/
theorem ipValue_inc (ip : IP) : ipValue (inc ip) = (ipValue ip + 1) % 256 ^ ip.length := by
  rw [inc, ipValue_reverse_incRev, List.reverse_reverse, List.length_reverse]

theorem length_iterate_inc (ip : IP) (i : ℕ) : (inc^[i] ip).length = ip.length := by
  induction i generalizing ip with
  | zero => rfl
  | succ i ih => rw [Function.iterate_succ_apply, ih, length_inc]

theorem ipValue_iterate_inc (ip : IP) (i : ℕ) :
    ipValue (inc^[i] ip) = (ipValue ip + i) % 256 ^ ip.length := by
  induction i generalizing ip with
  | zero => exact (Nat.mod_eq_of_lt (ipValue_lt ip)).symm
  | succ i ih =>
      rw [Function.iterate_succ_apply, ih, length_inc, ipValue_inc, Nat.mod_add_mod,
        Nat.add_right_comm, Nat.add_assoc]

/-! ## The loop of `ScanSubnet` -/

/-- The `for` loop of `ScanSubnet`, with room for `fuel` visits: from `ip`, while
`ipnet.Contains(ip)`, visit `ip` and go on from `inc(ip)`. The result is the visited addresses in
order, or `none` when the fuel runs out first. -/
def scanLoop (ipnet : IPNet) : ℕ → IP → Option (List IP)
  | 0, ip => if ipnet.contains ip then none else some []
  | fuel + 1, ip =>
      if ipnet.contains ip then (scanLoop ipnet fuel (inc ip)).map (ip :: ·) else some []

/-- The enumeration of `ScanSubnet` on an accepted CIDR: the loop from `ip.Mask(ipnet.Mask)`. -/
def scanSubnet (c : CIDR) (fuel : ℕ) : Option (List IP) :=
  scanLoop (parseCIDR c).2 fuel (IP.mask (parseCIDR c).1 (parseCIDR c).2.mask)

/-- The loop starts from the network's own address: `ParseCIDR` masks the address with the same
mask. -/
theorem scanSubnet_eq (c : CIDR) (fuel : ℕ) :
    scanSubnet c fuel = scanLoop (parseCIDR c).2 fuel (parseCIDR c).2.ip := by
  simp only [scanSubnet, parseCIDR]

/-- More fuel does not change a result the loop reached. -/
theorem scanLoop_add (ipnet : IPNet) {fuel : ℕ} {ip : IP} {visited : List IP}
    (h : scanLoop ipnet fuel ip = some visited) (k : ℕ) :
    scanLoop ipnet (fuel + k) ip = some visited := by
  induction fuel generalizing ip visited with
  | zero =>
      by_cases hc : ipnet.contains ip = true
      · simp [scanLoop, hc] at h
      · cases k <;> simpa [scanLoop, hc] using h
  | succ fuel ih =>
      rw [Nat.add_right_comm]
      by_cases hc : ipnet.contains ip = true
      · rw [scanLoop, if_pos hc] at h ⊢
        obtain ⟨rest, hrest, rfl⟩ := Option.map_eq_some'.mp h
        rw [ih hrest]; rfl
      · rw [scanLoop, if_neg hc] at h ⊢; exact h

/-- When the network contains the first `n` addresses from `ip` and not the next one, the loop
visits exactly those `n`, given the fuel for them. -/
theorem scanLoop_of_contains (ipnet : IPNet) (n : ℕ) :
    ∀ ip : IP, (∀ i < n, ipnet.contains (inc^[i] ip) = true) →
      ipnet.contains (inc^[n] ip) = false →
      ∀ fuel, n ≤ fuel → scanLoop ipnet fuel ip = some ((List.range n).map fun i => inc^[i] ip) := by
  induction n with
  | zero =>
      intro ip _ hout fuel _
      have hout : ipnet.contains ip = false := hout
      cases fuel <;> simp [scanLoop, hout]
  | succ n ih =>
      intro ip hin hout fuel hfuel
      obtain ⟨f, rfl⟩ : ∃ f, fuel = f + 1 := ⟨fuel - 1, by omega⟩
      rw [scanLoop, if_pos (show ipnet.contains ip = true from hin 0 (Nat.succ_pos n)),
        ih (inc ip) (fun i hi => hin (i + 1) (by omega)) hout f (by omega),
        List.range_succ_eq_map, Option.map_some', List.map_cons, List.map_map]
      rfl

/-- When the network contains every address from `ip` on, the loop runs out of any fuel. -/
theorem scanLoop_of_forall_contains (ipnet : IPNet) (fuel : ℕ) :
    ∀ ip : IP, (∀ i, ipnet.contains (inc^[i] ip) = true) → scanLoop ipnet fuel ip = none := by
  induction fuel with
  | zero => intro ip h; simp [scanLoop, show ipnet.contains ip = true from h 0]
  | succ fuel ih =>
      intro ip h
      rw [scanLoop, if_pos (show ipnet.contains ip = true from h 0), ih (inc ip) fun i => h (i + 1)]
      rfl

/-- The loop in numbers: the network contains, among the addresses of the start's length, those
whose numbers `inside` picks. When `inside` holds on the `n` numbers from the start and fails at
the next one, the loop visits those `n` addresses in order and stops. -/
theorem scanLoop_visits (ipnet : IPNet) (start : IP) (inside : ℕ → Prop)
    (hcontains : ∀ ip : IP, ip.length = start.length →
      (ipnet.contains ip = true ↔ inside (ipValue ip)))
    (n : ℕ) (hin : ∀ i < n, inside ((ipValue start + i) % 256 ^ start.length))
    (hout : ¬inside ((ipValue start + n) % 256 ^ start.length)) (fuel : ℕ) (hfuel : n ≤ fuel) :
    ∃ visited, scanLoop ipnet fuel start = some visited ∧
      visited.map ipValue = (List.range n).map (fun i => (ipValue start + i) % 256 ^ start.length) ∧
      ∀ ip ∈ visited, ip.length = start.length := by
  have hcontains' : ∀ i, ipnet.contains (inc^[i] start) = true ↔
      inside ((ipValue start + i) % 256 ^ start.length) := fun i => by
    rw [hcontains _ (length_iterate_inc start i), ipValue_iterate_inc]
  refine ⟨_, scanLoop_of_contains ipnet n start (fun i hi => (hcontains' i).mpr (hin i hi))
    (Bool.eq_false_iff.mpr fun h => hout ((hcontains' n).mp h)) fuel hfuel, ?_, ?_⟩
  · rw [List.map_map]
    exact List.map_congr_left fun i _ => ipValue_iterate_inc start i
  · simp only [List.mem_map]
    rintro _ ⟨i, -, rfl⟩
    exact length_iterate_inc start i

/-- The loop in numbers, when `inside` holds from the start on: it never ends. -/
theorem scanLoop_none (ipnet : IPNet) (start : IP) (inside : ℕ → Prop)
    (hcontains : ∀ ip : IP, ip.length = start.length →
      (ipnet.contains ip = true ↔ inside (ipValue ip)))
    (hin : ∀ i, inside ((ipValue start + i) % 256 ^ start.length)) (fuel : ℕ) :
    scanLoop ipnet fuel start = none :=
  scanLoop_of_forall_contains ipnet fuel start fun i => by
    rw [hcontains _ (length_iterate_inc start i), ipValue_iterate_inc]
    exact hin i


/-! ## The block `::ffff:0:0/96` -/

/-- The number of `::ffff:0.0.0.0`, the first address of `::ffff:0:0/96`. -/
def mappedStart : ℕ := 0xffff * 2 ^ 32

theorem mappedStart_lt : mappedStart < 2 ^ (8 * 16) := by norm_num [mappedStart]

section Mapped

variable {q k i : ℕ}

/-- A block either lies inside `::ffff:0:0/96` or is disjoint from it, unless it holds
`::ffff:0.0.0.0` past its first number. -/
theorem mapped_iff_of_lt (hi : i < 2 ^ k)
    (hgood : ¬(q * 2 ^ k < mappedStart ∧ mappedStart < q * 2 ^ k + 2 ^ k)) :
    (q * 2 ^ k + i) / 2 ^ 32 = 0xffff ↔ q * 2 ^ k / 2 ^ 32 = 0xffff := by
  rcases le_or_lt k 32 with hk | hk
  · have h32 : (2 : ℕ) ^ 32 = 2 ^ k * 2 ^ (32 - k) := by rw [← pow_add, Nat.add_sub_cancel' hk]
    rw [h32, ← Nat.div_div_eq_div_mul, ← Nat.div_div_eq_div_mul, mul_two_pow_add_div q hi,
      Nat.mul_div_cancel _ (Nat.two_pow_pos k)]
  · obtain ⟨e, rfl⟩ : ∃ e, k = e + 1 + 32 := ⟨k - 33, by omega⟩
    have hpos : 0 < 2 ^ 32 := Nat.two_pow_pos 32
    have hblock : q * 2 ^ (e + 1 + 32) = 2 * (q * 2 ^ e) * 2 ^ 32 := by ring
    have hsize : (2 : ℕ) ^ (e + 1 + 32) = 2 * 2 ^ e * 2 ^ 32 := by ring
    rw [hblock, hsize, mappedStart, ← Nat.add_mul, Nat.mul_lt_mul_right hpos,
      Nat.mul_lt_mul_right hpos] at hgood
    rw [hsize] at hi
    have hj : i / 2 ^ 32 < 2 * 2 ^ e := (Nat.div_lt_iff_lt_mul hpos).mpr hi
    rw [hblock, Nat.add_comm, Nat.add_mul_div_right _ _ hpos, Nat.mul_div_cancel _ hpos]
    omega

end Mapped

/-! ## The loop on a network -/

/-- With fuel for `n` visits, the loop of `ScanSubnet` ends, having visited the `n` addresses from
the network's first one, once each, in increasing order and of the network's length. -/
def Visits (c : CIDR) (n : ℕ) : Prop :=
  ∀ fuel, n ≤ fuel → ∃ visited, scanSubnet c fuel = some visited ∧
    visited.map ipValue = (List.range n).map (c.first + ·) ∧
    ∀ ip ∈ visited, ip.length = c.addr.ipLen

section Networks

variable (c : CIDR) (inside : ℕ → Prop)
  (hlen : (parseCIDR c).2.ip.length = c.addr.ipLen)
  (hfirst : ipValue (parseCIDR c).2.ip = c.first)
  (hcontains : ∀ ip : IP, ip.length = c.addr.ipLen →
    ((parseCIDR c).2.contains ip = true ↔ inside (ipValue ip)))
include hlen hfirst hcontains

/-- `Visits` from the numbers. `Contains` picks, among the addresses of the network's length, those
whose numbers `inside` picks. When `inside` holds on the `n` numbers from the first address and
fails at the next one, and the `n` numbers fit below `2 ^ bits`, the loop visits them and ends. -/
theorem visits_of_inside (n : ℕ) (hfit : c.first + n ≤ 2 ^ (8 * c.addr.ipLen))
    (hin : ∀ i < n, inside (c.first + i)) (hout : ¬inside ((c.first + n) % 2 ^ (8 * c.addr.ipLen))) :
    Visits c n := by
  intro fuel hfuel
  rw [scanSubnet_eq]
  rw [← hlen] at hcontains
  have hmod : ∀ i < n, (c.first + i) % 2 ^ (8 * c.addr.ipLen) = c.first + i :=
    fun i hi => Nat.mod_eq_of_lt (by omega)
  obtain ⟨visited, hrun, hmap, hlens⟩ := scanLoop_visits _ _ inside hcontains n
    (fun i hi => by rw [hfirst, hlen, two_fifty_six_pow, hmod i hi]; exact hin i hi)
    (by rw [hfirst, hlen, two_fifty_six_pow]; exact hout) fuel hfuel
  refine ⟨visited, hrun, ?_, fun ip hip => (hlens ip hip).trans hlen⟩
  rw [hmap, hfirst, hlen, two_fifty_six_pow]
  exact List.map_congr_left fun i hi => hmod i (List.mem_range.mp hi)

/-- When `inside` holds on every number the loop reaches, the loop never ends. -/
theorem none_of_inside (hin : ∀ i, inside ((c.first + i) % 2 ^ (8 * c.addr.ipLen))) (fuel : ℕ) :
    scanSubnet c fuel = none := by
  rw [scanSubnet_eq]
  rw [← hlen] at hcontains
  exact scanLoop_none _ _ inside hcontains
    (fun i => by rw [hfirst, hlen, two_fifty_six_pow]; exact hin i) fuel

end Networks

/-! ## The three outcomes -/

/-- The loop visits every address of the network once, in increasing order, and ends, unless the
network is IPv4 `/0` or an IPv6 network holding `::ffff:0.0.0.0` past its first address. -/
theorem scanSubnet_network (c : CIDR) (h4 : c.addr.is4 = true → 0 < c.ones)
    (h6 : c.addr.is4 = false →
      ¬(c.first < mappedStart ∧ mappedStart < c.first + 2 ^ c.hostBits)) :
    Visits c (2 ^ c.hostBits) := by
  cases ha : c.addr with
  | v4 bytes h =>
      obtain ⟨hlen, hfirst, hcontains⟩ := network_v4 c ha
      exact visits_of_inside c (fun y => y / 2 ^ c.hostBits = c.first / 2 ^ c.hostBits)
        hlen hfirst hcontains _ c.first_add_le (fun i hi => c.first_add_div hi)
        (c.next_div_ne (h4 (by rw [ha]; rfl)))
  | v6 bytes h =>
      obtain ⟨hlen, hfirst, hcontains⟩ := network_v6 c ha
      have hgood := h6 (by rw [ha]; rfl)
      have hk : 0 < c.ones := Nat.pos_of_ne_zero fun h0 => hgood (by
        rw [c.first_eq_zero h0, Nat.zero_add, CIDR.hostBits, h0, Nat.sub_zero, ha]
        exact ⟨by decide, mappedStart_lt⟩)
      exact visits_of_inside c (fun y => (y / 2 ^ 32 = 0xffff ↔ c.first / 2 ^ 32 = 0xffff) ∧
          y / 2 ^ c.hostBits = c.first / 2 ^ c.hostBits)
        hlen hfirst hcontains _ c.first_add_le
        (fun i hi => ⟨mapped_iff_of_lt hi hgood, c.first_add_div hi⟩)
        fun hin => c.next_div_ne hk hin.2

/-- `10.0.0.4/30`: the loop visits `10.0.0.4` to `10.0.0.7` and ends. -/
example : scanSubnet ⟨.v4 [10, 0, 0, 4] rfl, 30, by decide⟩ 4 =
    some [[10, 0, 0, 4], [10, 0, 0, 5], [10, 0, 0, 6], [10, 0, 0, 7]] := by decide

/-- On IPv4 `/0` the loop never ends: every address of four bytes is in the network, and `inc`
wraps `255.255.255.255` to `0.0.0.0`. -/
theorem scanSubnet_v4_zero (c : CIDR) (h4 : c.addr.is4 = true) (h0 : c.ones = 0) (fuel : ℕ) :
    scanSubnet c fuel = none := by
  cases ha : c.addr with
  | v6 bytes h => rw [ha] at h4; cases h4
  | v4 bytes h =>
      obtain ⟨hlen, hfirst, hcontains⟩ := network_v4 c ha
      have hbits : c.hostBits = 8 * c.addr.ipLen := by rw [CIDR.hostBits, h0, Nat.sub_zero]
      refine none_of_inside c (fun y => y / 2 ^ c.hostBits = c.first / 2 ^ c.hostBits)
        hlen hfirst hcontains (fun i => ?_) fuel
      simp only [c.first_eq_zero h0, hbits, Nat.zero_div]
      exact Nat.div_eq_of_lt (Nat.mod_lt _ (Nat.two_pow_pos _))

/-- An IPv6 network that holds `::ffff:0.0.0.0` past its first address loses the rest of itself:
the loop stops at `::ffff:0.0.0.0`, whose four-byte form `Contains` compares with the sixteen-byte
network number. -/
theorem scanSubnet_stops_at_mapped (c : CIDR) (h6 : c.addr.is4 = false)
    (hlo : c.first < mappedStart) (hhi : mappedStart < c.first + 2 ^ c.hostBits) :
    Visits c (mappedStart - c.first) := by
  cases ha : c.addr with
  | v4 bytes h => rw [ha] at h6; cases h6
  | v6 bytes h =>
      obtain ⟨hlen, hfirst, hcontains⟩ := network_v6 c ha
      have hpos : 0 < 2 ^ 32 := Nat.two_pow_pos 32
      have hbelow : ∀ x < mappedStart, x / 2 ^ 32 ≠ 0xffff := fun x hx =>
        ((Nat.div_lt_iff_lt_mul hpos).mpr hx).ne
      have hM : mappedStart < 2 ^ (8 * c.addr.ipLen) := by rw [ha]; exact mappedStart_lt
      refine visits_of_inside c (fun y => (y / 2 ^ 32 = 0xffff ↔ c.first / 2 ^ 32 = 0xffff) ∧
          y / 2 ^ c.hostBits = c.first / 2 ^ c.hostBits)
        hlen hfirst hcontains _ (by omega)
        (fun i hi => ⟨iff_of_false (hbelow _ (by omega)) (hbelow _ hlo),
          c.first_add_div (by omega)⟩) ?_
      rw [Nat.add_sub_cancel' hlo.le, Nat.mod_eq_of_lt hM]
      exact fun hin => hbelow _ hlo (hin.1.mp (Nat.mul_div_cancel _ hpos))

/-- What the loop of `ScanSubnet` does on every CIDR that `ParseCIDR` accepts. On IPv4 `/0` it
never ends. On an IPv6 network that holds `::ffff:0.0.0.0` past its first address, it stops there.
On every other network, it visits each address once, in increasing order, and ends. -/
theorem scanSubnet_enumeration (c : CIDR) :
    (c.addr.is4 = true ∧ c.ones = 0 → ∀ fuel, scanSubnet c fuel = none) ∧
    (c.addr.is4 = false ∧ c.first < mappedStart ∧ mappedStart < c.first + 2 ^ c.hostBits →
      Visits c (mappedStart - c.first)) ∧
    (¬(c.addr.is4 = true ∧ c.ones = 0) →
      ¬(c.addr.is4 = false ∧ c.first < mappedStart ∧ mappedStart < c.first + 2 ^ c.hostBits) →
      Visits c (2 ^ c.hostBits)) :=
  ⟨fun h => scanSubnet_v4_zero c h.1 h.2, fun h => scanSubnet_stops_at_mapped c h.1 h.2.1 h.2.2,
    fun h4 h6 => scanSubnet_network c (fun h => Nat.pos_of_ne_zero fun h0 => h4 ⟨h, h0⟩)
      fun h hm => h6 ⟨h, hm⟩⟩

/-- `0.0.0.0/0`. -/
def zeroRoute : CIDR := ⟨.v4 [0, 0, 0, 0] rfl, 0, by decide⟩

theorem scanSubnet_enumeration_zeroRoute : ∀ fuel, scanSubnet zeroRoute fuel = none :=
  (scanSubnet_enumeration zeroRoute).1 ⟨rfl, rfl⟩

/-- `::/0`. -/
def allV6 : CIDR := ⟨.v6 (List.replicate 16 0) rfl, 0, by decide⟩

/-- On `::/0` the loop visits the `0xffff * 2 ^ 32` addresses below `::ffff:0.0.0.0` and stops,
of the `2 ^ 128` of the network. -/
theorem scanSubnet_allV6 : Visits allV6 mappedStart ∧ mappedStart < 2 ^ allV6.hostBits := by
  have hfirst : allV6.first = 0 := by decide
  have hbits : allV6.hostBits = 8 * 16 := rfl
  rw [hbits]
  have h := scanSubnet_stops_at_mapped allV6 rfl (by rw [hfirst]; decide)
    (by rw [hfirst, hbits, Nat.zero_add]; exact mappedStart_lt)
  rw [hfirst, Nat.sub_zero] at h
  exact ⟨h, mappedStart_lt⟩

end GoNms
