import GoNms.Device.Registry
import GoNms.Go.Fmt
import GoNms.Go.Json

set_option autoImplicit false

/-! # The device endpoints

`DeviceHandler` serves `POST /devices`, `GET /devices` and `GET /devices/:id` over the device
service. `ListDevices` reads `page` and `page_size` from the query with `strconv.Atoi`, dropping
its error: a missing parameter reads as its default (1 and 20), and one that is not a numeral as
0. The service then normalises both, and the answer reports the values the handler read, not the
ones the service used.

A client that asks for the pages `1, 2, ..., K` with one page size between 1 and 100, where `K`
pages of that size cover the table, gets every device of the table exactly once, in table order,
and every answer reports the total (`listDevices_pages`). This holds for a table whose rows the
database returns in the same order on every query: the repository's query, which has no
`ORDER BY`, does not ask for one, and the model takes one order per table. -/

namespace GoNms

open GoNms.Go

/-- `DeviceHandler.RegisterDevice`, on the outcome of `ShouldBindJSON` and of the service's
queries: the table after the call, and the answer. -/
def DeviceHandler.registerDevice (db : ColumnTypes) (t : DeviceTable)
    (req : Except String RegisterDeviceRequest) (lookupErr : Option String) (newID : String)
    (insertErr : Option String) : DeviceTable × HandlerResponse DeviceRow :=
  match req with
  | .error err => (t, ⟨400, .error err⟩)
  | .ok req =>
      match GoNms.registerDevice db t req lookupErr newID insertErr with
      | (t', .error err) => (t', ⟨500, .error err⟩)
      | (t', .ok device) => (t', ⟨201, .ok device⟩)

/-- The `gin.H` body of a successful `ListDevices`. -/
structure DeviceList where
  data : List Device
  total : BitVec 64
  page : BitVec 64
  pageSize : BitVec 64

/-- `DeviceHandler.ListDevices`, with the query's values of `page` and `page_size`, if any
(`c.DefaultQuery`). -/
def DeviceHandler.listDevices (repo : DeviceRepository) (page? pageSize? : Option String) :
    HandlerResponse DeviceList :=
  let page := atoi (page?.getD "1")
  let pageSize := atoi (pageSize?.getD "20")
  match GoNms.listDevices repo page pageSize with
  | .error err => ⟨500, .error err⟩
  | .ok (devices, total) => ⟨200, .ok ⟨devices, total, page, pageSize⟩⟩

/-- `DeviceHandler.GetDevice`: every failure of the lookup, a missing row or a failed query, is
answered as a missing device. -/
def DeviceHandler.getDevice (t : DeviceTable) (id : String) (queryErr : Option String) :
    HandlerResponse DeviceRow :=
  match GoNms.getDevice t id queryErr with
  | .error _ => ⟨404, .error "device not found"⟩
  | .ok device => ⟨200, .ok device⟩

/-! ## Walking the pages -/

/-- The windows of `s` rows at `0, s, 2s, ...`, `K` of them, are the first `K * s` rows. -/
theorem flatMap_range_window {α : Type} (l : List α) (s K : ℕ) :
    (List.range K).flatMap (fun k => (l.drop (k * s)).take s) = l.take (K * s) := by
  induction K with
  | zero => simp
  | succ K ih =>
      rw [List.range_succ, List.flatMap_append, ih, List.flatMap_singleton, Nat.succ_mul,
        List.take_add]

theorem toInt_ofNat_of_lt {n : ℕ} (hn : n < 2 ^ 63) : (BitVec.ofNat 64 n).toInt = n := by
  rw [BitVec.toInt_ofNat]
  exact bmod_of_mem_range ⟨by omega, by exact_mod_cast hn⟩

/-- Page `p` of a page size in range, asked for by their numerals: the window of the table from
`(p - 1) * s` on, with the total, and the two numbers read back. -/
theorem listDevices_page {repo : DeviceRepository} (hl : repo.listErr = none)
    (hc : repo.countErr = none) {p s : ℕ} (hp : 1 ≤ p) (hs : 1 ≤ s ∧ s ≤ 100)
    (hwrap : p * s < 2 ^ 63) :
    DeviceHandler.listDevices repo (some ⟨Nat.toDigits 10 p⟩) (some ⟨Nat.toDigits 10 s⟩) =
      ⟨200, .ok ⟨(repo.rows.drop ((p - 1) * s)).take s, BitVec.ofNat 64 repo.rows.length,
        BitVec.ofNat 64 p, BitVec.ofNat 64 s⟩⟩ := by
  have hp63 : p < 2 ^ 63 := lt_of_le_of_lt (Nat.le_mul_of_pos_right p hs.1) hwrap
  have hpi := toInt_ofNat_of_lt hp63
  have hs63 : s < 2 ^ 63 := by omega
  have hsi := toInt_ofNat_of_lt hs63
  have hoff : ((p : ℤ) - 1) * s = ((p - 1) * s : ℕ) := by push_cast [Nat.cast_sub hp]; ring
  have hwin := @listDevices_window repo hl hc (BitVec.ofNat 64 p) (BitVec.ofNat 64 s)
    (by rw [hpi]; exact_mod_cast hp) (by rw [hsi]; exact ⟨by exact_mod_cast hs.1, by exact_mod_cast hs.2⟩)
    (by rw [hpi, hsi, hoff]; exact_mod_cast lt_of_le_of_lt (Nat.mul_le_mul_right s (Nat.sub_le p 1)) hwrap)
  rw [hpi, hsi, hoff, Int.toNat_natCast, Int.toNat_natCast] at hwin
  simp only [DeviceHandler.listDevices, Option.getD_some, atoi_toDigits hp63, atoi_toDigits hs63, hwin]

/-- Asking for the pages `1, ..., K` of one size `s` between 1 and 100, with `K` pages of `s`
covering the table: every answer is a 200 reporting the total, and the pages' devices, one after
the other, are the table. -/
theorem listDevices_pages {repo : DeviceRepository} (hl : repo.listErr = none)
    (hc : repo.countErr = none) {s K : ℕ} (hs : 1 ≤ s ∧ s ≤ 100) (hK : repo.rows.length ≤ K * s)
    (hwrap : K * s < 2 ^ 63) :
    ∃ bodies : List DeviceList,
      (List.range K).map (fun k => DeviceHandler.listDevices repo (some ⟨Nat.toDigits 10 (k + 1)⟩)
          (some ⟨Nat.toDigits 10 s⟩)) = bodies.map (fun b => ⟨200, .ok b⟩) ∧
        bodies.flatMap DeviceList.data = repo.rows ∧
        ∀ b ∈ bodies, b.total = BitVec.ofNat 64 repo.rows.length := by
  refine ⟨(List.range K).map fun k => ⟨(repo.rows.drop (k * s)).take s,
    BitVec.ofNat 64 repo.rows.length, BitVec.ofNat 64 (k + 1), BitVec.ofNat 64 s⟩, ?_, ?_, ?_⟩
  · rw [List.map_map]
    refine List.map_congr_left fun k hk => ?_
    have hk' : k + 1 ≤ K := List.mem_range.mp hk
    rw [listDevices_page hl hc (Nat.le_add_left 1 k) hs
      (lt_of_le_of_lt (Nat.mul_le_mul_right s hk') hwrap), Nat.add_sub_cancel]
    rfl
  · rw [List.flatMap_map, flatMap_range_window, List.take_of_length_le hK]
  · simp

/-- A table of three routers. -/
def threeRouters : DeviceRepository :=
  ⟨[⟨"r1", "r1", "10.0.0.1", DeviceTypeRouter, ProtocolMikrotikAPI, true, none⟩,
    ⟨"r2", "r2", "10.0.0.2", DeviceTypeRouter, ProtocolMikrotikAPI, true, none⟩,
    ⟨"r3", "r3", "10.0.0.3", DeviceTypeRouter, ProtocolMikrotikAPI, true, none⟩], none, none⟩

theorem listDevices_pages_threeRouters :
    threeRouters.listErr = none ∧ threeRouters.countErr = none ∧ (1 ≤ 2 ∧ 2 ≤ 100) ∧
      threeRouters.rows.length ≤ 2 * 2 ∧ 2 * 2 < 2 ^ 63 ∧
      ∃ bodies : List DeviceList,
        (List.range 2).map (fun k => DeviceHandler.listDevices threeRouters
            (some ⟨Nat.toDigits 10 (k + 1)⟩) (some ⟨Nat.toDigits 10 2⟩)) =
          bodies.map (fun b => ⟨200, .ok b⟩) ∧
        bodies.flatMap DeviceList.data = threeRouters.rows ∧
        ∀ b ∈ bodies, b.total = BitVec.ofNat 64 threeRouters.rows.length :=
  ⟨rfl, rfl, by decide, by decide, by decide,
    @listDevices_pages threeRouters rfl rfl 2 2 (by decide) (by decide) (by decide)⟩

end GoNms
