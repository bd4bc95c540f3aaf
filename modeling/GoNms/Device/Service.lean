import GoNms.Device.Model
import GoNms.Go.Int

set_option autoImplicit false

/-! # `ListDevices` and the device repository

`deviceService.ListDevices` normalises its paging arguments (a page below 1 becomes 1, a page size
below 1 or above 100 becomes 20), turns them into the window of a `DeviceFilter` and asks the
repository for the devices in that window and for the total count.

The repository is the device table as `gorm` reads it: its rows in the order the database returns
them (the query has no `ORDER BY`, so every order is possible), and the error each of the two
queries ends with, if any. `ListDevices` sets no search criterion of the filter, so `applyFilter`
adds no condition and the criteria are left out; `List` reads `OFFSET offset LIMIT limit`, each
clause added only when its value is positive. -/

namespace GoNms

/-- `repository.DeviceFilter`, with the two fields `ListDevices` sets (Go `int`s). -/
structure DeviceFilter where
  limit : BitVec 64
  offset : BitVec 64
  deriving DecidableEq, Repr

/-- The device table behind `deviceRepository`: its rows in query order, and the errors of `List`
and `Count`. -/
structure DeviceRepository where
  rows : List Device
  listErr : Option String
  countErr : Option String

namespace DeviceRepository

/-- `deviceRepository.List`: `Offset` and `Limit` are applied only when positive. -/
def list (repo : DeviceRepository) (filter : DeviceFilter) : Except String (List Device) :=
  match repo.listErr with
  | some err => .error err
  | none =>
      let rows := if BitVec.slt 0 filter.offset then repo.rows.drop filter.offset.toNat else repo.rows
      .ok (if BitVec.slt 0 filter.limit then rows.take filter.limit.toNat else rows)

/-- `deviceRepository.Count`: the filter's criteria select the rows; its window does not apply. -/
def count (repo : DeviceRepository) (_filter : DeviceFilter) : Except String (BitVec 64) :=
  match repo.countErr with
  | some err => .error err
  | none => .ok (BitVec.ofNat 64 repo.rows.length)

end DeviceRepository

/-- `deviceService.ListDevices`: the devices of the requested page and the total count. -/
def listDevices (repo : DeviceRepository) (page pageSize : BitVec 64) :
    Except String (List Device × BitVec 64) :=
  let page := if BitVec.slt page 1 then 1 else page
  let pageSize := if BitVec.slt pageSize 1 || BitVec.slt 100 pageSize then 20 else pageSize
  let offset := (page - 1) * pageSize
  let filter : DeviceFilter := { limit := pageSize, offset }
  match repo.list filter with
  | .error err => .error err
  | .ok devices =>
      match repo.count filter with
      | .error err => .error err
      | .ok count => .ok (devices, count)

/-! ## The repository's window -/

open GoNms.Go

namespace DeviceRepository

/-- With the query succeeding, `List` returns the rows from `Offset` on, at most `Limit` of them. -/
theorem list_window {repo : DeviceRepository} (h : repo.listErr = none) {limit offset : BitVec 64}
    (hoff : 0 ≤ offset.toInt) (hlim : 0 < limit.toInt) :
    repo.list ⟨limit, offset⟩ = .ok ((repo.rows.drop offset.toNat).take limit.toNat) := by
  have hdrop : (if BitVec.slt 0 offset then repo.rows.drop offset.toNat else repo.rows) =
      repo.rows.drop offset.toNat := by
    split_ifs with hpos
    · rfl
    · have : offset.toInt = 0 := by simp at hpos; omega
      rw [toNat_eq_toInt_toNat hoff, this]; rfl
  simp only [list, h, hdrop]
  rw [if_pos (by simpa using hlim)]

/-- A positive `Limit` bounds what `List` returns. -/
theorem length_le_of_list {repo : DeviceRepository} {filter : DeviceFilter} {devices : List Device}
    (h : repo.list filter = .ok devices) (hlim : 0 < filter.limit.toInt) :
    devices.length ≤ filter.limit.toNat := by
  unfold list at h
  split at h
  · cases h
  · cases h
    rw [if_pos (by simpa using hlim)]
    exact List.length_take_le _ _

end DeviceRepository

/-! ## Paging -/

/-- The page size `ListDevices` asks for is between 1 and 100. -/
theorem pageSize_mem_range (pageSize : BitVec 64) :
    let s : BitVec 64 := if BitVec.slt pageSize 1 || BitVec.slt 100 pageSize then 20 else pageSize
    1 ≤ s.toInt ∧ s.toInt ≤ 100 := by
  intro s
  by_cases h : pageSize.toInt < 1 ∨ 100 < pageSize.toInt
  · rw [show s = 20 from if_pos (by simpa using h)]
    decide
  · rw [show s = pageSize from if_neg (by simpa using h)]
    omega

/-- Any page size outside `[1, 100]` is served as a page size of 20. -/
theorem listDevices_of_pageSize_out_of_range (repo : DeviceRepository) (page : BitVec 64)
    {pageSize : BitVec 64} (h : pageSize.toInt < 1 ∨ 100 < pageSize.toInt) :
    listDevices repo page pageSize = listDevices repo page 20 := by
  have h20 : (if BitVec.slt pageSize 1 || BitVec.slt 100 pageSize then (20 : BitVec 64)
      else pageSize) = 20 := if_pos (by simpa using h)
  simp only [listDevices, h20, ite_self]

/-- Any page below 1 is served as page 1. -/
theorem listDevices_of_page_lt_one (repo : DeviceRepository) {page : BitVec 64}
    (pageSize : BitVec 64) (h : page.toInt < 1) :
    listDevices repo page pageSize = listDevices repo 1 pageSize := by
  have h1 : (if BitVec.slt page 1 then (1 : BitVec 64) else page) = 1 := if_pos (by simpa using h)
  simp only [listDevices, h1, ite_self]

/-- A page in range, whose offset does not wrap around, is the window of the registry from
`(page - 1) * pageSize` on, with the total count. -/
theorem listDevices_window {repo : DeviceRepository} (hl : repo.listErr = none)
    (hc : repo.countErr = none) {page pageSize : BitVec 64} (hpage : 1 ≤ page.toInt)
    (hsize : 1 ≤ pageSize.toInt ∧ pageSize.toInt ≤ 100)
    (hwrap : (page.toInt - 1) * pageSize.toInt < 2 ^ 63) :
    listDevices repo page pageSize =
      .ok ((repo.rows.drop ((page.toInt - 1) * pageSize.toInt).toNat).take pageSize.toInt.toNat,
        BitVec.ofNat 64 repo.rows.length) := by
  have hp : (if BitVec.slt page 1 then (1 : BitVec 64) else page) = page :=
    if_neg (by simpa using hpage)
  have hs : (if BitVec.slt pageSize 1 || BitVec.slt 100 pageSize then (20 : BitVec 64)
      else pageSize) = pageSize := if_neg (by simp; omega)
  have hrange := toInt_mem_range page
  have hnonneg : 0 ≤ (page.toInt - 1) * pageSize.toInt := Int.mul_nonneg (by omega) (by omega)
  have hsub : (page - 1).toInt = page.toInt - 1 :=
    toInt_sub_of_mem_range (by rw [show (1 : BitVec 64).toInt = 1 from rfl]; omega)
  have hoff : ((page - 1) * pageSize).toInt = (page.toInt - 1) * pageSize.toInt := by
    rw [toInt_mul_of_mem_range (by rw [hsub]; exact ⟨le_trans (by norm_num) hnonneg, hwrap⟩), hsub]
  simp only [listDevices, hp, hs]
  rw [@DeviceRepository.list_window repo hl pageSize ((page - 1) * pageSize) (hoff ▸ hnonneg)
      (by omega)]
  simp only [DeviceRepository.count, hc]
  rw [toNat_eq_toInt_toNat (x := (page - 1) * pageSize) (hoff ▸ hnonneg), hoff,
    toNat_eq_toInt_toNat (x := pageSize) (by omega)]

/-- A successful `ListDevices` returns at most 100 devices, whatever page size it is asked for. -/
theorem listDevices_length_le {repo : DeviceRepository} {page pageSize count : BitVec 64}
    {devices : List Device} (h : listDevices repo page pageSize = .ok (devices, count)) :
    devices.length ≤ 100 := by
  obtain ⟨h1, h100⟩ := pageSize_mem_range pageSize
  simp only [listDevices] at h
  generalize (if BitVec.slt pageSize 1 || BitVec.slt 100 pageSize then (20 : BitVec 64)
    else pageSize) = s at h h1 h100
  split at h
  · cases h
  · rename_i hlist
    split at h
    · cases h
    · cases h
      have := DeviceRepository.length_le_of_list hlist (by exact h1)
      rw [toNat_eq_toInt_toNat (x := s) (le_trans (by norm_num) h1)] at this
      omega

theorem listDevices_of_list_err {repo : DeviceRepository} {err : String}
    (h : repo.listErr = some err) (page pageSize : BitVec 64) :
    listDevices repo page pageSize = .error err := by
  simp only [listDevices, DeviceRepository.list, h]

theorem listDevices_of_count_err {repo : DeviceRepository} {err : String}
    (hl : repo.listErr = none) (h : repo.countErr = some err) (page pageSize : BitVec 64) :
    listDevices repo page pageSize = .error err := by
  simp only [listDevices, DeviceRepository.list, DeviceRepository.count, hl, h]

end GoNms
