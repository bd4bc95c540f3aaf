import GoNms.Device.Service
import Mathlib.Data.List.Nodup
import Mathlib.Data.String.Basic

set_option autoImplicit false

/-! # Registering devices

`deviceService.RegisterDevice` asks the repository for a device with the request's IP address and
creates one unless the lookup returned a device. It drops the lookup's error (`existing, _ :=`), so
a failed query counts as "no such device". The `devices` table has a primary key and no unique
index on `ip_address`, so nothing else keeps two devices from sharing an address.

The table is the list of its rows, as the repository reads them. The repository's queries read and
write it (`first`, `create`), with each query's failure, and the identifier `gen_random_uuid()`
hands out, given by the environment. Two columns do not hold the text the code sends:
`ip_address` is an `inet`, which the database reads (failing on a text that is no address) and
writes back in its own form, and compares as addresses, so `2001:DB8::1` finds a row holding
`2001:db8::1`; `tags` is a `text[]`, written as `StringArray.Value`'s text and read back through
`StringArray.Scan`. `ColumnTypes` gives the two types' input and output as data.

- One call keeps the addresses of the table distinct exactly when its lookup succeeded, or no row
  had the address, or the insert failed; so a run of calls whose lookups all succeed keeps them
  distinct (`registerDevice_nodup_iff`).
- The device it returns is the request's, under the identifier the database generated; `GetDevice`
  reads back that device with its address and tags as the columns hold them
  (`getDevice_registerDevice`), so a tag with a comma comes back as two tags.
- The lookup and the insert are two queries. `RegistryState` runs several calls at once, one query
  per step, and `registerDevice` is a call whose two queries run back to back (it is built from the
  same two steps). Two calls for one new address whose lookups both run before either insert both
  succeed, and leave two devices with that address (`register_race`). -/

namespace GoNms

/-- `service.RegisterDeviceRequest`. `PollingInterval` is a Go `int`; `Tags` is `nil` when the JSON
has none. -/
structure RegisterDeviceRequest where
  name : String
  ipAddress : String
  deviceType : String
  protocol : String
  pollingInterval : BitVec 64
  tags : StringArray

/-- The database's types of the two `devices` columns that rewrite what they are sent: `inet` for
`ip_address` and `text[]` for `tags`. Each takes the text a query sends to the text the column
then holds (its input, then its output function), or to the error of a text it refuses. An `inet`
is determined by the text its output writes, so two addresses are the same `inet` exactly when the
column holds them as the same text. -/
structure ColumnTypes where
  inet : String → Except String String
  textArray : String → Except String String

/-- Column types that hold every text as it is sent, as `inet` and `text[]` do for a dotted-quad
address and for tags that need no quoting. -/
def textColumns : ColumnTypes := ⟨.ok, .ok⟩

/-- The tags a row reads back: `Scan` of what the `text[]` column holds for `Value`'s text, `NULL`
for a `nil` array. -/
def ColumnTypes.tagsRead (db : ColumnTypes) (tags : StringArray) : Except String StringArray :=
  match tags.value with
  | none => StringArray.scan .null
  | some text => (db.textArray text).bind fun held => StringArray.scan (.ofValue (some held))

/-- The row the table holds for a device the repository inserts: the address as the `inet` column
holds it and the tags as they read back, or the error of a value a column refuses. -/
def ColumnTypes.store (db : ColumnTypes) (device : DeviceRow) : Except String DeviceRow :=
  match db.inet device.ipAddress, db.tagsRead device.tags with
  | .ok ip, .ok tags => .ok { device with ipAddress := ip, tags := tags }
  | .error err, _ => .error err
  | .ok _, .error err => .error err

theorem ColumnTypes.store_eq_ok {db : ColumnTypes} {device row : DeviceRow}
    (h : db.store device = .ok row) :
    row.id = device.id ∧ db.inet device.ipAddress = .ok row.ipAddress := by
  unfold ColumnTypes.store at h
  split at h
  · next ip tags hip _ => cases h; exact ⟨rfl, hip⟩
  · cases h
  · cases h

/-- The row gorm's `First` picks among `rows`: it orders by the primary key (canonical `uuid` text
orders as the identifiers do). -/
def firstByID : List DeviceRow → Option DeviceRow
  | [] => none
  | d :: rest =>
      match firstByID rest with
      | some e => if e.id < d.id then some e else some d
      | none => some d

theorem firstByID_eq_none {l : List DeviceRow} : firstByID l = none ↔ l = [] := by
  cases l with
  | nil => exact iff_of_true rfl rfl
  | cons d rest =>
      refine iff_of_false ?_ (List.cons_ne_nil d rest)
      simp only [firstByID]
      split
      · split <;> exact Option.some_ne_none _
      · exact Option.some_ne_none _

theorem mem_of_firstByID {l : List DeviceRow} {d : DeviceRow} (h : firstByID l = some d) : d ∈ l := by
  induction l with
  | nil => cases h
  | cons x rest ih =>
      simp only [firstByID] at h
      split at h
      · next e he =>
          split at h
          · cases h; exact List.mem_cons_of_mem x (ih he)
          · cases h; exact List.mem_cons_self d rest
      · cases h; exact List.mem_cons_self d rest

/-- The `devices` table, its rows in insertion order. -/
structure DeviceTable where
  rows : List DeviceRow

namespace DeviceTable

/-- `First(&device, "<column> = ?", value)`, which fails with the query's error, or with
`notFound` when no row matches. -/
def first (t : DeviceTable) (column : DeviceRow → String) (value notFound : String)
    (queryErr : Option String) : Except String DeviceRow :=
  match queryErr with
  | some err => .error err
  | none =>
      match firstByID (t.rows.filter (column · = value)) with
      | some device => .ok device
      | none => .error notFound

/-- `deviceRepository.GetByID`. -/
def getByID (t : DeviceTable) (id : String) (queryErr : Option String) : Except String DeviceRow :=
  t.first (·.id) id ("device not found: " ++ id) queryErr

/-- `deviceRepository.GetByIPAddress`: the database reads the address as an `inet`, failing on a
text that is no address, and compares it with the addresses the rows hold. -/
def getByIPAddress (db : ColumnTypes) (t : DeviceTable) (ipAddress : String)
    (queryErr : Option String) : Except String DeviceRow :=
  match queryErr, db.inet ipAddress with
  | some err, _ => .error err
  | none, .error err => .error err
  | none, .ok ip => t.first (·.ipAddress) ip ("device not found with IP: " ++ ipAddress) none

/-- `deviceRepository.Create` of a device whose `ID` is empty: the database fills it in with
`newID`, and the table holds the row the columns store. The device `Create` leaves behind carries
only the new `ID`. A failed insert leaves the table as it was. -/
def create (db : ColumnTypes) (t : DeviceTable) (device : DeviceRow) (newID : String)
    (insertErr : Option String) : Except String (DeviceTable × DeviceRow) :=
  match insertErr, db.store { device with id := newID } with
  | some err, _ => .error err
  | none, .error err => .error err
  | none, .ok row => .ok (⟨t.rows ++ [row]⟩, { device with id := newID })

/-- A lookup finds a row exactly when one has the value in the column. -/
theorem first_eq_ok_iff (t : DeviceTable) (column : DeviceRow → String) (value notFound : String) :
    (∃ d, t.first column value notFound none = .ok d) ↔ value ∈ t.rows.map column := by
  simp only [first, List.mem_map]
  split
  · next d hd =>
      have := List.mem_filter.mp (mem_of_firstByID hd)
      exact iff_of_true ⟨d, rfl⟩ ⟨d, this.1, by simpa using this.2⟩
  · next hd =>
      have hnil := List.filter_eq_nil_iff.mp (firstByID_eq_none.mp hd)
      refine iff_of_false (fun ⟨_, h⟩ => nomatch h) fun ⟨d, hd, hv⟩ => ?_
      exact hnil d hd (by simpa using hv)

/-- Whether a row holds the address `ipAddress`, compared as an `inet`. -/
def HoldsAddress (db : ColumnTypes) (t : DeviceTable) (ipAddress : String) : Prop :=
  ∃ ip, db.inet ipAddress = .ok ip ∧ ip ∈ t.rows.map (·.ipAddress)

end DeviceTable

/-! ## `RegisterDevice` -/

/-- The device `RegisterDevice` builds: status `unknown`, enabled, and a polling interval of 300
seconds in place of 0. -/
def newDevice (req : RegisterDeviceRequest) : DeviceRow :=
  { id := "", name := req.name, ipAddress := req.ipAddress, deviceType := req.deviceType,
    protocol := req.protocol, enabled := true, credentials := none, status := DeviceStatusUnknown,
    pollingInterval := if req.pollingInterval = 0 then 300 else req.pollingInterval,
    groupID := none, description := "", tags := req.tags, lastSeen := none }

section Calls

variable (db : ColumnTypes)

/-- The first half of `RegisterDevice`: the lookup, whose error is dropped. `some` result when the
call returns there, `none` when it goes on to the insert. -/
def lookupStep (t : DeviceTable) (req : RegisterDeviceRequest) (lookupErr : Option String) :
    Option (Except String DeviceRow) :=
  match t.getByIPAddress db req.ipAddress lookupErr with
  | .ok _ => some (.error "device with this IP address already exists")
  | .error _ => none

/-- The second half of `RegisterDevice`: the insert, and what the call returns. -/
def insertStep (t : DeviceTable) (req : RegisterDeviceRequest) (newID : String)
    (insertErr : Option String) : DeviceTable × Except String DeviceRow :=
  match t.create db (newDevice req) newID insertErr with
  | .error err => (t, .error err)
  | .ok (t', device) => (t', .ok device)

/-- `deviceService.RegisterDevice`, given the outcome of each query. -/
def registerDevice (t : DeviceTable) (req : RegisterDeviceRequest) (lookupErr : Option String)
    (newID : String) (insertErr : Option String) : DeviceTable × Except String DeviceRow :=
  match lookupStep db t req lookupErr with
  | some result => (t, result)
  | none => insertStep db t req newID insertErr

end Calls

/-- `deviceService.GetDevice`. -/
def getDevice (t : DeviceTable) (id : String) (queryErr : Option String) :
    Except String DeviceRow :=
  t.getByID id queryErr

section Table

variable {db : ColumnTypes}

theorem lookupStep_of_err (t : DeviceTable) (req : RegisterDeviceRequest) (err : String) :
    lookupStep db t req (some err) = none := rfl

theorem lookupStep_none_eq_none_iff (t : DeviceTable) (req : RegisterDeviceRequest) :
    lookupStep db t req none = none ↔ ¬ t.HoldsAddress db req.ipAddress := by
  simp only [lookupStep, DeviceTable.getByIPAddress, DeviceTable.HoldsAddress]
  cases hip : db.inet req.ipAddress with
  | error err => simp
  | ok ip =>
      simp only [Except.ok.injEq, exists_eq_left',
        ← DeviceTable.first_eq_ok_iff t (·.ipAddress) ip ("device not found with IP: " ++ req.ipAddress)]
      split <;> simp_all

/-- An `inet` that writes addresses in lower case, as the database writes v6 addresses: a request
for `2001:DB8::1` finds the row of `2001:db8::1`, so the call stops at the lookup. -/
example :
    lookupStep ⟨fun a => .ok ⟨a.data.map Char.toLower⟩, .ok⟩
      ⟨[{ newDevice ⟨"edge", "2001:db8::1", DeviceTypeRouter, ProtocolSNMP, 0, none⟩ with
          id := "dev-1" }]⟩
      ⟨"edge", "2001:DB8::1", DeviceTypeRouter, ProtocolSNMP, 0, none⟩ none =
      some (.error "device with this IP address already exists") := rfl

/-- The table after the insert: the stored row appended, unless the insert failed. -/
theorem insertStep_rows (t : DeviceTable) (req : RegisterDeviceRequest) (newID : String)
    (insertErr : Option String) :
    (insertStep db t req newID insertErr).1.rows =
      match insertErr, db.store { newDevice req with id := newID } with
      | none, .ok row => t.rows ++ [row]
      | _, _ => t.rows := by
  simp only [insertStep, DeviceTable.create]
  cases insertErr <;> cases db.store { newDevice req with id := newID } <;> rfl

/-- A call whose insert runs appends the stored row, at the request's address read as an `inet`,
or fails and leaves the table as it was. -/
theorem insertStep_cases (t : DeviceTable) (req : RegisterDeviceRequest) (newID : String)
    (insertErr : Option String) :
    (∃ row, db.inet req.ipAddress = .ok row.ipAddress ∧
        (insertStep db t req newID insertErr).1.rows = t.rows ++ [row] ∧
        ∀ err, t.create db (newDevice req) newID insertErr ≠ .error err) ∨
      ((insertStep db t req newID insertErr).1.rows = t.rows ∧
        ∃ err, t.create db (newDevice req) newID insertErr = .error err) := by
  rw [insertStep_rows]
  simp only [DeviceTable.create]
  cases insertErr with
  | some err => exact .inr ⟨rfl, err, rfl⟩
  | none =>
      cases hs : db.store { newDevice req with id := newID } with
      | error err => exact .inr ⟨rfl, err, rfl⟩
      | ok row => exact .inl ⟨row, (ColumnTypes.store_eq_ok hs).2, rfl, fun _ h => nomatch h⟩

/-- Appending a row keeps the addresses distinct exactly when no row held its address. -/
theorem nodup_append_row {t : DeviceTable} (ht : (t.rows.map (·.ipAddress)).Nodup)
    {req : RegisterDeviceRequest} {row : DeviceRow} (hip : db.inet req.ipAddress = .ok row.ipAddress) :
    ((t.rows ++ [row]).map (·.ipAddress)).Nodup ↔ ¬ t.HoldsAddress db req.ipAddress := by
  simp only [DeviceTable.HoldsAddress, hip, Except.ok.injEq, exists_eq_left', List.map_append,
    List.map_cons, List.map_nil, List.nodup_append, ht, List.nodup_singleton, true_and,
    List.disjoint_singleton]

theorem nodup_registerDevice_iff {t : DeviceTable} (ht : (t.rows.map (·.ipAddress)).Nodup)
    (req : RegisterDeviceRequest) (lookupErr : Option String) (newID : String)
    (insertErr : Option String) :
    ((registerDevice db t req lookupErr newID insertErr).1.rows.map (·.ipAddress)).Nodup ↔
      lookupErr = none ∨ ¬ t.HoldsAddress db req.ipAddress ∨
        ∃ err, t.create db (newDevice req) newID insertErr = .error err := by
  unfold registerDevice
  split
  · next r hr =>
      refine iff_of_true ht (.inl ?_)
      cases lookupErr with
      | none => rfl
      | some err => rw [lookupStep_of_err] at hr; cases hr
  · next hr =>
      rcases insertStep_cases t req newID insertErr with ⟨row, hip, hrows, hok⟩ | ⟨hrows, hfail⟩
      · rw [hrows, nodup_append_row ht hip]
        cases lookupErr with
        | none => exact iff_of_true ((lookupStep_none_eq_none_iff t req).mp hr) (.inl rfl)
        | some err => simp [fun err h => hok err h]
      · rw [hrows]
        exact iff_of_true ht (.inr (.inr hfail))

/-- A call of `RegisterDevice` with the outcome of each of its queries. -/
structure RegisterCall where
  req : RegisterDeviceRequest
  lookupErr : Option String
  newID : String
  insertErr : Option String

variable (db) in
/-- Calls of `RegisterDevice` made one after another. -/
def registerAll (t : DeviceTable) (calls : List RegisterCall) : DeviceTable :=
  calls.foldl (fun t c => (registerDevice db t c.req c.lookupErr c.newID c.insertErr).1) t

/-- Calls made one after another, whose lookups all succeed, keep the addresses of the table
distinct. -/
theorem registerAll_nodup {t : DeviceTable} (ht : (t.rows.map (·.ipAddress)).Nodup)
    (calls : List RegisterCall) (hl : ∀ c ∈ calls, c.lookupErr = none) :
    ((registerAll db t calls).rows.map (·.ipAddress)).Nodup := by
  induction calls generalizing t with
  | nil => exact ht
  | cons c rest ih =>
      have hstep := (@nodup_registerDevice_iff db _ ht c.req none c.newID c.insertErr).mpr (.inl rfl)
      rw [← hl c (List.mem_cons_self c rest)] at hstep
      exact ih hstep fun c' hc' => hl c' (List.mem_cons_of_mem c hc')

/-- One call keeps the addresses of the table distinct exactly when its lookup succeeded, or no
row had the address, or the insert failed; so calls made one after another, whose lookups all
succeed, keep them distinct. -/
theorem registerDevice_nodup_iff {t : DeviceTable} (ht : (t.rows.map (·.ipAddress)).Nodup) :
    (∀ (req : RegisterDeviceRequest) (lookupErr : Option String) (newID : String)
        (insertErr : Option String),
      ((registerDevice db t req lookupErr newID insertErr).1.rows.map (·.ipAddress)).Nodup ↔
        lookupErr = none ∨ ¬ t.HoldsAddress db req.ipAddress ∨
          ∃ err, t.create db (newDevice req) newID insertErr = .error err) ∧
    ∀ calls : List RegisterCall, (∀ c ∈ calls, c.lookupErr = none) →
      ((registerAll db t calls).rows.map (·.ipAddress)).Nodup :=
  ⟨nodup_registerDevice_iff ht, registerAll_nodup ht⟩

/-- A request for `10.0.0.1`. -/
def edgeRequest : RegisterDeviceRequest :=
  ⟨"edge", "10.0.0.1", DeviceTypeRouter, ProtocolSNMP, 0, none⟩

/-- A table holding a device at `10.0.0.1`. -/
def edgeTable : DeviceTable := ⟨[{ newDevice edgeRequest with id := "dev-1" }]⟩

theorem registerDevice_nodup_iff_edgeTable :
    (edgeTable.rows.map (·.ipAddress)).Nodup ∧
      (∀ (req : RegisterDeviceRequest) (lookupErr : Option String) (newID : String)
          (insertErr : Option String),
        ((registerDevice textColumns edgeTable req lookupErr newID insertErr).1.rows.map
            (·.ipAddress)).Nodup ↔
          lookupErr = none ∨ ¬ edgeTable.HoldsAddress textColumns req.ipAddress ∨
            ∃ err, edgeTable.create textColumns (newDevice req) newID insertErr = .error err) ∧
      ∀ calls : List RegisterCall, (∀ c ∈ calls, c.lookupErr = none) →
        ((registerAll textColumns edgeTable calls).rows.map (·.ipAddress)).Nodup :=
  ⟨by decide, @registerDevice_nodup_iff textColumns edgeTable (by decide)⟩

/-- The device a successful `RegisterDevice` returns is `newDevice` under the identifier the
database generated, and `GetDevice` reads back under that identifier the row the columns stored for
it: its address as the `inet` column holds it and its tags as they read back. -/
theorem getDevice_registerDevice {t t' : DeviceTable} {req : RegisterDeviceRequest}
    {lookupErr : Option String} {newID : String} {insertErr : Option String} {d : DeviceRow}
    (h : registerDevice db t req lookupErr newID insertErr = (t', .ok d))
    (hfresh : newID ∉ t.rows.map (·.id)) :
    d = { newDevice req with id := newID } ∧
      ∃ row, db.store d = .ok row ∧ getDevice t' d.id none = .ok row := by
  unfold registerDevice at h
  split at h
  · next r hr =>
      simp only [lookupStep] at hr
      split at hr <;> cases hr
      simp at h
  · simp only [insertStep, DeviceTable.create] at h
    cases insertErr with
    | some err => simp at h
    | none =>
        cases hs : db.store { newDevice req with id := newID } with
        | error err => simp [hs] at h
        | ok row =>
            simp only [hs, Prod.mk.injEq, Except.ok.injEq] at h
            obtain ⟨rfl, rfl⟩ := h
            have hid := (ColumnTypes.store_eq_ok hs).1
            have hnone : t.rows.filter (fun r => r.id = newID) = [] :=
              List.filter_eq_nil_iff.mpr fun r hr hr' =>
                hfresh (List.mem_map.mpr ⟨r, hr, by simpa using hr'⟩)
            refine ⟨rfl, row, hs, ?_⟩
            simp [getDevice, DeviceTable.getByID, DeviceTable.first, List.filter_append, hnone,
              hid, firstByID]

/-- A request for `10.0.0.1` with one tag holding a comma. -/
def commaRequest : RegisterDeviceRequest :=
  ⟨"edge", "10.0.0.1", DeviceTypeRouter, ProtocolSNMP, 0, some ["a,b"]⟩

theorem getDevice_registerDevice_comma :
    ∃ t' d, registerDevice textColumns ⟨[]⟩ commaRequest none "dev-1" none = (t', .ok d) ∧
      "dev-1" ∉ ([] : List DeviceRow).map (·.id) ∧
      d = { newDevice commaRequest with id := "dev-1" } ∧
      ∃ row, textColumns.store d = .ok row ∧ getDevice t' d.id none = .ok row :=
  ⟨_, _, rfl, by simp,
    @getDevice_registerDevice textColumns ⟨[]⟩ _ commaRequest none "dev-1" none _ rfl (by simp)⟩

example : ((getDevice (registerDevice textColumns ⟨[]⟩ commaRequest none "dev-1" none).1 "dev-1"
    none).toOption.map (·.tags)) = some (some ["a", "b"]) := rfl

end Table

/-! ## Calls at once -/

/-- Where a call of `RegisterDevice` is: before its lookup, before its insert, or returned. -/
inductive RegisterPc where
  | lookup
  | insert
  | returned (result : Except String DeviceRow)

/-- Calls of `RegisterDevice` in flight on one table: each call's request and place. -/
structure RegistryState where
  table : DeviceTable
  calls : List (RegisterDeviceRequest × RegisterPc)

/-- A scheduling choice: call `i` runs its lookup, or its insert, with the query's outcome. -/
inductive RegistryAct where
  | lookup (i : ℕ) (lookupErr : Option String)
  | insert (i : ℕ) (newID : String) (insertErr : Option String)

namespace RegistryState

/-- The calls `reqs`, none of which has run a query yet. -/
def start (t : DeviceTable) (reqs : List RegisterDeviceRequest) : RegistryState :=
  ⟨t, reqs.map (·, .lookup)⟩

def step (db : ColumnTypes) (s : RegistryState) : RegistryAct → Option RegistryState
  | .lookup i lookupErr =>
      match s.calls[i]? with
      | some (req, .lookup) =>
          let pc := match lookupStep db s.table req lookupErr with
            | some result => .returned result
            | none => .insert
          some { s with calls := s.calls.set i (req, pc) }
      | _ => none
  | .insert i newID insertErr =>
      match s.calls[i]? with
      | some (req, .insert) =>
          let (t', result) := insertStep db s.table req newID insertErr
          some ⟨t', s.calls.set i (req, .returned result)⟩
      | _ => none

end RegistryState

/-- Two calls for an address no row has, the same `inet` however each request writes it, whose
lookups both run before either insert: both return their new devices, and the table ends with two
devices at that address. -/
theorem register_race (db : ColumnTypes) (t : DeviceTable) (r₁ r₂ : RegisterDeviceRequest)
    {ip : String} (h₁ : db.inet r₁.ipAddress = .ok ip) (h₂ : db.inet r₂.ipAddress = .ok ip)
    (hnew : ip ∉ t.rows.map (·.ipAddress)) (id₁ id₂ : String) {row₁ row₂ : DeviceRow}
    (hs₁ : db.store { newDevice r₁ with id := id₁ } = .ok row₁)
    (hs₂ : db.store { newDevice r₂ with id := id₂ } = .ok row₂) :
    [.lookup 0 none, .lookup 1 none, .insert 0 id₁ none, .insert 1 id₂ none].foldlM
        (RegistryState.step db) (.start t [r₁, r₂]) =
      some ⟨⟨t.rows ++ [row₁, row₂]⟩,
        [(r₁, .returned (.ok { newDevice r₁ with id := id₁ })),
          (r₂, .returned (.ok { newDevice r₂ with id := id₂ }))]⟩ ∧
    ((t.rows ++ [row₁, row₂]).filter fun d : DeviceRow => d.ipAddress = ip).length = 2 := by
  have hfree : ∀ r : RegisterDeviceRequest, db.inet r.ipAddress = .ok ip →
      lookupStep db t r none = none := fun r hr =>
    (lookupStep_none_eq_none_iff t r).mpr fun ⟨ip', hip', hmem⟩ => by
      rw [hr] at hip'; cases hip'; exact hnew hmem
  have e₁ : row₁.ipAddress = ip := Except.ok.inj ((ColumnTypes.store_eq_ok hs₁).2.symm.trans h₁)
  have e₂ : row₂.ipAddress = ip := Except.ok.inj ((ColumnTypes.store_eq_ok hs₂).2.symm.trans h₂)
  have hnil : t.rows.filter (·.ipAddress = ip) = [] :=
    List.filter_eq_nil_iff.mpr fun d hd hip => hnew (List.mem_map.mpr ⟨d, hd, by simpa using hip⟩)
  refine ⟨?_, ?_⟩
  · simp [List.foldlM, RegistryState.step, RegistryState.start, hfree r₁ h₁, hfree r₂ h₂,
      insertStep, DeviceTable.create, hs₁, hs₂]
  · simp [List.filter_append, hnil, e₁, e₂]

theorem register_race_edge :
    textColumns.inet edgeRequest.ipAddress = .ok "10.0.0.1" ∧
      textColumns.inet edgeRequest.ipAddress = .ok "10.0.0.1" ∧
      "10.0.0.1" ∉ ([] : List DeviceRow).map (·.ipAddress) ∧
      textColumns.store { newDevice edgeRequest with id := "dev-1" } =
        .ok { newDevice edgeRequest with id := "dev-1" } ∧
      textColumns.store { newDevice edgeRequest with id := "dev-2" } =
        .ok { newDevice edgeRequest with id := "dev-2" } ∧
      [.lookup 0 none, .lookup 1 none, .insert 0 "dev-1" none, .insert 1 "dev-2" none].foldlM
          (RegistryState.step textColumns) (.start ⟨[]⟩ [edgeRequest, edgeRequest]) =
        some ⟨⟨[] ++ [{ newDevice edgeRequest with id := "dev-1" },
            { newDevice edgeRequest with id := "dev-2" }]⟩,
          [(edgeRequest, .returned (.ok { newDevice edgeRequest with id := "dev-1" })),
            (edgeRequest, .returned (.ok { newDevice edgeRequest with id := "dev-2" }))]⟩ ∧
      (([] ++ [{ newDevice edgeRequest with id := "dev-1" },
          { newDevice edgeRequest with id := "dev-2" }]).filter
        fun d : DeviceRow => d.ipAddress = "10.0.0.1").length = 2 :=
  ⟨rfl, rfl, by simp, rfl, rfl,
    register_race textColumns ⟨[]⟩ edgeRequest edgeRequest rfl rfl (by simp) "dev-1" "dev-2" rfl rfl⟩

end GoNms
