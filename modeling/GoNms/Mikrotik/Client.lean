import GoNms.Go.FloatText
import GoNms.Go.Map
import GoNms.Device.Model
import Mathlib.Data.String.Basic

set_option autoImplicit false

/-! # The RouterOS API client

`MikrotikClient` holds a RouterOS API session, set by `Connect`, and the device it was asked to
connect to. `GetSystemMetrics` reads the first reply sentence of `/system/resource/print`: the
CPU load through `ParseFloat`, the four memory and disk counters through `ParseUint` into
`uint64`s, a field keeping its zero value when the key is missing or does not parse. For a
positive total it computes the usage percentage `float64(total - free) / float64(total) * 100`.
The subtraction is on `uint64`: when a reply reports more free than total it wraps modulo `2^64`
(`toNat_sub_eq`), and the percentage, within `[0, 100]` whenever `free ≤ total`, is at least 100
(`getSystemMetrics_usage`). Then it reads the temperature and voltage of `/system/health/print`,
if that command answers. `GetInterfaceMetrics` turns each sentence of `/interface/print =stats`
into a record whose eight counters are read the same way (`interfaceMetricsOf_counters`): a counter
is the value of its field when the field is a `uint64` numeral, and 0 otherwise.
`ExecuteCommand` writes one `key: value` line per attribute of each sentence, visiting each
sentence's map in the order `range` takes this run: its text holds the reply's lines sentence by
sentence in some order, and two runs on the same reply can return different texts
(`executeCommand_text`).

The session is what the model takes as given: `Run` of a command gives its reply sentences or its
error. The client record carries the invariant that `Connect` keeps: a session is only ever set
after a device is. -/

namespace GoNms.Mikrotik

open GoNms.Go

/-- A RouterOS API session as the client uses it: `Run` of a command gives the reply's sentences,
each as its attribute map (`reply.Re[i].Map`), or the error of the call. -/
def RouterOSClient : Type := String → Except String (List (GoMap String String))

/-- `MikrotikClient`: the session (`nil` until `Connect` succeeds) and the device of the last
`Connect`. A session is never set without a device. -/
structure MikrotikClient where
  client : Option RouterOSClient
  device : Option Device
  connected_device : client.isSome = true → device.isSome = true

/-- `SystemMetrics`, without the `Timestamp` of the call. -/
structure SystemMetrics where
  deviceID : String
  cpuUsage : GoFloat
  memoryTotal : BitVec 64
  memoryFree : BitVec 64
  memoryUsage : GoFloat
  diskTotal : BitVec 64
  diskFree : BitVec 64
  diskUsage : GoFloat
  uptime : BitVec 64
  temperature : GoFloat
  voltage : GoFloat

/-- `routeros.DialTimeout(address, username, password, timeout)` (and `routeros.Dial`): a session,
or the error of the dial. -/
def RouterOSDial : Type := String → String → String → Except String RouterOSClient

/-- `NewMikrotikClient`. -/
def newMikrotikClient : MikrotikClient := ⟨none, none, fun h => nomatch h⟩

/-- `MikrotikClient.Connect`: records the device, then dials `<ip>:8728` with the device's
credentials (`dial` stands for `routeros.DialTimeout`). A failed dial keeps the previous session. -/
def connect (m : MikrotikClient) (device : Device)
    (dial : RouterOSDial) :
    MikrotikClient × Option String :=
  let m : MikrotikClient := { m with device := some device, connected_device := fun _ => rfl }
  match device.credentials with
  | none => (m, some "device credentials not loaded")
  | some credentials =>
      match dial (device.ipAddress ++ ":8728") credentials.username credentials.passwordEncrypted with
      | .error err => (m, some ("failed to connect: " ++ err))
      | .ok client => ({ m with client := some client, connected_device := fun _ => rfl }, none)

/-- `if s, ok := res[key]; ok { if v, err := parse(s); err == nil { field = v } }`: a field of
the reply parsed into the metrics, which keeps its value when the key is missing or does not
parse. -/
def parsedField {α : Type} (res : GoMap String String) (key : String)
    (parse : List Char → Except NumError α) (field : α) : α :=
  match res.find? key with
  | some s =>
      match parse s.toList with
      | .ok v => v
      | .error _ => field
  | none => field

/-- `strconv.ParseUint(s, 10, 64)` into a `uint64`. -/
def parseUint64 (s : List Char) : Except NumError (BitVec 64) :=
  BitVec.ofNat 64 <$> parseUint s

/-- `if total > 0 { used := total - free; usage = float64(used) / float64(total) * 100 }`, on
`uint64` counters. -/
def usagePercent (total free : BitVec 64) (usage : GoFloat) : GoFloat :=
  if 0 < total then
    let used := total - free
    GoFloat.ofInt used.toNat / GoFloat.ofInt total.toNat * 100
  else usage

/-- `parseRouterOSUptime`: a placeholder in the source, which parses nothing and returns the zero
`time.Duration`. -/
def parseRouterOSUptime (_uptime : String) : BitVec 64 := 0

/-- `time.Duration.Seconds`: `float64(d / Second) + float64(d % Second) / 1e9`. -/
def durationSeconds (d : BitVec 64) : GoFloat :=
  GoFloat.ofInt (d.sdiv 1000000000).toInt + GoFloat.ofInt (d.srem 1000000000).toInt / 1000000000

/-- The health block of `GetSystemMetrics`: the temperature and voltage of the first sentence of
`/system/health/print`, both left zero when the command fails or answers nothing. -/
def healthMetrics (client : RouterOSClient) : GoFloat × GoFloat :=
  match client "/system/health/print" with
  | .ok (health :: _) =>
      (parsedField health "temperature" parseFloat 0, parsedField health "voltage" parseFloat 0)
  | _ => (0, 0)

/-- The body of `GetSystemMetrics` on a session, for the device `deviceID`. -/
def readSystemMetrics (client : RouterOSClient) (deviceID : String) :
    Except String SystemMetrics :=
  match client "/system/resource/print" with
  | .error err => .error ("failed to get system resources: " ++ err)
  | .ok [] => .error "no system resource data returned"
  | .ok (res :: _) =>
      let memoryTotal := parsedField res "total-memory" parseUint64 0
      let memoryFree := parsedField res "free-memory" parseUint64 0
      let diskTotal := parsedField res "total-hdd-space" parseUint64 0
      let diskFree := parsedField res "free-hdd-space" parseUint64 0
      let uptime : BitVec 64 := match res.find? "uptime" with
        | some uptime => (durationSeconds (parseRouterOSUptime uptime)).toInt64
        | none => 0
      .ok { deviceID
            cpuUsage := parsedField res "cpu-load" parseFloat 0
            memoryTotal, memoryFree
            memoryUsage := usagePercent memoryTotal memoryFree 0
            diskTotal, diskFree
            diskUsage := usagePercent diskTotal diskFree 0
            uptime
            temperature := (healthMetrics client).1
            voltage := (healthMetrics client).2 }

/-- `MikrotikClient.GetSystemMetrics`. -/
def getSystemMetrics (m : MikrotikClient) : Except String SystemMetrics :=
  match hc : m.client, hd : m.device with
  | none, _ => .error "not connected"
  | some client, some device => readSystemMetrics client device.id
  | some _, none => absurd (m.connected_device (by rw [hc]; rfl)) (by rw [hd]; decide)

/-! ## The session -/

/-- A failed `Connect` keeps the previous session but records the new device: a client connected
before goes on reading the old device and reporting the new one's ID. -/
theorem connect_of_err (m : MikrotikClient) (device : Device)
    (dial : RouterOSDial)
    (h : (connect m device dial).2.isSome = true) :
    (connect m device dial).1.client = m.client ∧ (connect m device dial).1.device = some device := by
  unfold connect at h ⊢
  revert h
  cases device.credentials with
  | none => exact fun _ => ⟨rfl, rfl⟩
  | some credentials =>
      dsimp only
      cases dial (device.ipAddress ++ ":8728") credentials.username credentials.passwordEncrypted with
      | error err => exact fun _ => ⟨rfl, rfl⟩
      | ok client => exact fun h => nomatch h

theorem getSystemMetrics_of_client (m : MikrotikClient) (client : RouterOSClient) (device : Device)
    (hc : m.client = some client) (hd : m.device = some device) :
    getSystemMetrics m = readSystemMetrics client device.id := by
  obtain ⟨client?, device?, _⟩ := m
  cases hc
  cases hd
  rfl

theorem getSystemMetrics_of_not_connected (m : MikrotikClient) (hc : m.client = none) :
    getSystemMetrics m = .error "not connected" := by
  obtain ⟨client?, device?, _⟩ := m
  cases hc
  rfl

/-- Every error of `GetSystemMetrics` names its cause. -/
theorem getSystemMetrics_error (m : MikrotikClient) (err : String)
    (h : getSystemMetrics m = .error err) :
    (m.client = none ∧ err = "not connected") ∨
      (∃ client runErr, m.client = some client ∧ client "/system/resource/print" = .error runErr ∧
        err = "failed to get system resources: " ++ runErr) ∨
      (∃ client, m.client = some client ∧ client "/system/resource/print" = .ok [] ∧
        err = "no system resource data returned") := by
  cases hc : m.client with
  | none =>
      unfold getSystemMetrics at h
      split at h
      · cases h; exact Or.inl ⟨rfl, rfl⟩
      · next hc' _ => rw [hc] at hc'; cases hc'
      · next hc' _ => rw [hc] at hc'; cases hc'
  | some client =>
      obtain ⟨device, hd⟩ := Option.isSome_iff_exists.mp (m.connected_device (by rw [hc]; rfl))
      rw [getSystemMetrics_of_client m client device hc hd, readSystemMetrics] at h
      split at h
      · next runErr hrun => cases h; exact Or.inr (Or.inl ⟨client, runErr, rfl, hrun, rfl⟩)
      · next hrun => cases h; exact Or.inr (Or.inr ⟨client, rfl, hrun, rfl⟩)
      · cases h

/-! ## The usage percentage -/

/-- `total - free` on `uint64`: the difference when `free ≤ total`, else wrapped by `2^64`. -/
theorem toNat_sub_eq (total free : BitVec 64) :
    (total - free).toNat =
      if free.toNat ≤ total.toNat then total.toNat - free.toNat
      else total.toNat + 2 ^ 64 - free.toNat := by
  have ht := total.isLt
  have hf := free.isLt
  rw [BitVec.toNat_sub]
  split_ifs with hle
  · rw [show 2 ^ 64 - free.toNat + total.toNat = (total.toNat - free.toNat) + 2 ^ 64 by omega,
      Nat.add_mod_right, Nat.mod_eq_of_lt (by omega)]
  · rw [Nat.mod_eq_of_lt (by omega)]
    omega

theorem roundBinary64_natCast {n : ℕ} (h : n ≤ 2 ^ 53) : roundBinary64 (n : ℚ) = n := by
  have := roundBinary64_intCast (k := n) (by rw [abs_of_nonneg (by positivity)]; exact_mod_cast h)
  exact_mod_cast this

/-- `2^64`, the bound of every unsigned counter, is a `float64`. -/
theorem roundBinary64_two_pow_64 : roundBinary64 ((2 : ℚ) ^ 64) = 2 ^ 64 := by
  rw [show (2 : ℚ) ^ 64 = ((1 : ℤ) : ℚ) * 2 ^ (64 : ℤ) by norm_num]
  exact roundBinary64_mul_zpow (by norm_num) (by norm_num)

/-- The `float64` of an unsigned counter lies in `[0, 2^64]`. -/
theorem roundBinary64_natCast_mem {n : ℕ} (hn : n < 2 ^ 64) :
    0 ≤ roundBinary64 (n : ℚ) ∧ roundBinary64 (n : ℚ) ≤ 2 ^ 64 :=
  ⟨roundBinary64_nonneg (by positivity),
    roundBinary64_two_pow_64 ▸ roundBinary64_mono (by exact_mod_cast hn.le)⟩

/-- The `float64` of a positive counter is at least 1. -/
theorem one_le_roundBinary64_natCast {n : ℕ} (hn : 0 < n) : 1 ≤ roundBinary64 (n : ℚ) := by
  have := roundBinary64_mono (show ((1 : ℕ) : ℚ) ≤ n by exact_mod_cast hn)
  rwa [roundBinary64_natCast (by norm_num), Nat.cast_one] at this

/-- `float64(used) / float64(total) * 100` for unsigned counters with `total > 0`, as the
rational the result holds: each operation rounds once. -/
theorem percent_eq_ofRat {used total : ℕ} (hu : used < 2 ^ 64) (ht0 : 0 < total)
    (ht : total < 2 ^ 64) :
    GoFloat.ofInt used / GoFloat.ofInt total * 100 =
      GoFloat.ofRat (roundBinary64 (roundBinary64 used / roundBinary64 total) * 100) := by
  have hbound : ∀ n : ℕ, n < 2 ^ 64 → |(n : ℚ)| ≤ maxFinite := fun n hn =>
    GoFloat.abs_le_maxFinite_of_abs_le_two_pow (n := 64) (by norm_num)
      (by rw [abs_of_nonneg (by positivity)]; exact_mod_cast hn.le)
  have hused := roundBinary64_natCast_mem hu
  have htot := one_le_roundBinary64_natCast ht0
  have hratio : |roundBinary64 used / roundBinary64 total| ≤ maxFinite := by
    refine GoFloat.abs_le_maxFinite_of_abs_le_two_pow (n := 64) (by norm_num) ?_
    rw [abs_of_nonneg (div_nonneg hused.1 (by linarith))]
    exact (div_le_self hused.1 htot).trans hused.2
  rw [GoFloat.ofInt, GoFloat.ofInt, Int.cast_natCast, Int.cast_natCast,
    GoFloat.div_ofRat (hbound used hu) (hbound total ht)
      (by linarith), show (100 : GoFloat) = GoFloat.ofRat ((100 : ℤ) : ℚ) from rfl,
    GoFloat.mul_ofRat hratio (GoFloat.abs_le_maxFinite_of_abs_le (by norm_num)),
    roundBinary64_intCast (by norm_num)]
  rfl

/-- The percentage is never negative, at most 100 when `used ≤ total` and at least 100 when
`total ≤ used`: each rounding is monotone and keeps 1 and 100. -/
theorem percent_bounds {used total : ℕ} (hu : used < 2 ^ 64) (ht0 : 0 < total)
    (ht : total < 2 ^ 64) :
    GoFloat.le 0 (GoFloat.ofInt used / GoFloat.ofInt total * 100) = true ∧
      (used ≤ total → GoFloat.le (GoFloat.ofInt used / GoFloat.ofInt total * 100) 100 = true) ∧
      (total ≤ used → GoFloat.le 100 (GoFloat.ofInt used / GoFloat.ofInt total * 100) = true) := by
  have h1 : roundBinary64 (1 : ℚ) = 1 := by simpa using roundBinary64_natCast (n := 1) (by norm_num)
  have hused := roundBinary64_natCast_mem hu
  have htot := one_le_roundBinary64_natCast ht0
  set ratio := roundBinary64 (used : ℚ) / roundBinary64 total
  have hratio : 0 ≤ roundBinary64 ratio ∧ roundBinary64 ratio ≤ 2 ^ 64 :=
    ⟨roundBinary64_nonneg (div_nonneg hused.1 (by linarith)),
      roundBinary64_two_pow_64 ▸ roundBinary64_mono ((div_le_self hused.1 htot).trans hused.2)⟩
  have hbound : ∀ q : ℚ, 0 ≤ q → q ≤ 2 ^ 71 → |q| ≤ maxFinite := fun q h0 h =>
    GoFloat.abs_le_maxFinite_of_abs_le_two_pow (n := 71) (by norm_num) (by rwa [abs_of_nonneg h0])
  have hr := hbound (roundBinary64 ratio * 100) (by linarith) (by linarith)
  have h0 := hbound 0 le_rfl (by norm_num)
  have h100 := hbound 100 (by norm_num) (by norm_num)
  rw [percent_eq_ofRat hu ht0 ht, show (0 : GoFloat) = GoFloat.ofRat 0 from rfl,
    show (100 : GoFloat) = GoFloat.ofRat 100 from rfl]
  refine ⟨GoFloat.le_ofRat_of_le h0 hr (by linarith), fun hle => ?_, fun hle => ?_⟩
  · have : roundBinary64 ratio ≤ 1 :=
      h1 ▸ roundBinary64_mono ((div_le_one (by linarith)).mpr (roundBinary64_mono (by exact_mod_cast hle)))
    exact GoFloat.le_ofRat_of_le hr h100 (by linarith)
  · have : 1 ≤ roundBinary64 ratio :=
      h1 ▸ roundBinary64_mono ((one_le_div (by linarith)).mpr (roundBinary64_mono (by exact_mod_cast hle)))
    exact GoFloat.le_ofRat_of_le h100 hr (by linarith)

/-- What the usage percentage of a pair of counters satisfies: within `[0, 100]` when the free
amount is at most the total; when it is more and the total is positive, the subtraction wraps and
the percentage is at least 100. -/
def UsageBounds (total free : BitVec 64) (usage : GoFloat) : Prop :=
  (free ≤ total → GoFloat.le 0 usage = true ∧ GoFloat.le usage 100 = true) ∧
    (0 < total → total < free →
      (total - free).toNat = total.toNat + 2 ^ 64 - free.toNat ∧ GoFloat.le 100 usage = true)

theorem usagePercent_bounds (total free : BitVec 64) :
    UsageBounds total free (usagePercent total free 0) := by
  have hsub := toNat_sub_eq total free
  have hzero : GoFloat.le 0 0 = true ∧ GoFloat.le 0 100 = true := by
    have h0 : |(0 : ℚ)| ≤ maxFinite := GoFloat.abs_le_maxFinite_of_abs_le (by norm_num)
    have h100 : |(100 : ℚ)| ≤ maxFinite := GoFloat.abs_le_maxFinite_of_abs_le (by norm_num)
    exact ⟨GoFloat.le_ofRat_of_le h0 h0 le_rfl, GoFloat.le_ofRat_of_le h0 h100 (by norm_num)⟩
  unfold UsageBounds usagePercent
  constructor
  · intro hle
    split_ifs with h0
    · rw [if_pos (BitVec.le_def.mp hle)] at hsub
      obtain ⟨hnn, hle100, -⟩ := percent_bounds (total - free).isLt (BitVec.lt_def.mp h0) total.isLt
      exact ⟨hnn, hle100 (by rw [hsub]; exact Nat.sub_le _ _)⟩
    · exact hzero
  · intro h0 hlt
    have hpos : 0 < total.toNat := BitVec.lt_def.mp h0
    have hlt' := BitVec.lt_def.mp hlt
    rw [if_neg (by omega)] at hsub
    rw [if_pos h0]
    obtain ⟨-, -, hge⟩ := percent_bounds (total - free).isLt hpos total.isLt
    exact ⟨hsub, hge (by have := free.isLt; omega)⟩

/-! ## The system metrics -/

/-- A successful `GetSystemMetrics` ran on the client's session. -/
theorem getSystemMetrics_read (m : MikrotikClient) (metrics : SystemMetrics)
    (h : getSystemMetrics m = .ok metrics) :
    ∃ (client : RouterOSClient) (device : Device), m.client = some client ∧
      readSystemMetrics client device.id = .ok metrics := by
  cases hc : m.client with
  | none => rw [getSystemMetrics_of_not_connected m hc] at h; cases h
  | some client =>
      obtain ⟨device, hd⟩ := Option.isSome_iff_exists.mp (m.connected_device (by rw [hc]; rfl))
      exact ⟨client, device, rfl, by rwa [← getSystemMetrics_of_client m client device hc hd]⟩

/-- A successful `GetSystemMetrics` read the first sentence of the resource reply: the CPU load and
the four counters are its parsed fields, and the percentages are computed from the counters. -/
theorem getSystemMetrics_ok (m : MikrotikClient) (metrics : SystemMetrics)
    (h : getSystemMetrics m = .ok metrics) :
    ∃ client res rest, m.client = some client ∧
      client "/system/resource/print" = .ok (res :: rest) ∧
      metrics.cpuUsage = parsedField res "cpu-load" parseFloat 0 ∧
      metrics.memoryTotal = parsedField res "total-memory" parseUint64 0 ∧
      metrics.memoryFree = parsedField res "free-memory" parseUint64 0 ∧
      metrics.memoryUsage = usagePercent metrics.memoryTotal metrics.memoryFree 0 ∧
      metrics.diskTotal = parsedField res "total-hdd-space" parseUint64 0 ∧
      metrics.diskFree = parsedField res "free-hdd-space" parseUint64 0 ∧
      metrics.diskUsage = usagePercent metrics.diskTotal metrics.diskFree 0 := by
  obtain ⟨client, device, hc, h⟩ := getSystemMetrics_read m metrics h
  rw [readSystemMetrics] at h
  split at h
  · cases h
  · cases h
  · next res rest hrun =>
      cases h
      exact ⟨client, res, rest, hc, hrun, rfl, rfl, rfl, rfl, rfl, rfl, rfl⟩

/-- The usage percentages `GetSystemMetrics` returns: within `[0, 100]` when the reply reports no
more free than total, and at least 100, the `uint64` subtraction having wrapped, when it reports
more free than a positive total. -/
theorem getSystemMetrics_usage (m : MikrotikClient) (metrics : SystemMetrics)
    (h : getSystemMetrics m = .ok metrics) :
    UsageBounds metrics.memoryTotal metrics.memoryFree metrics.memoryUsage ∧
      UsageBounds metrics.diskTotal metrics.diskFree metrics.diskUsage := by
  obtain ⟨-, -, -, -, -, -, -, -, hmem, -, -, hdisk⟩ := getSystemMetrics_ok m metrics h
  rw [hmem, hdisk]
  exact ⟨usagePercent_bounds _ _, usagePercent_bounds _ _⟩

/-- A router whose resource reply reports 1 byte of memory in total and 2 bytes free. -/
def wrapReply : GoMap String String :=
  ⟨[("total-memory", "1"), ("free-memory", "2")], by simp only [List.map_cons, List.map_nil]; decide⟩

def wrapRouter : Device :=
  { id := "mt-3", name := "mt-3", ipAddress := "10.0.0.9", deviceType := DeviceTypeRouter,
    protocol := ProtocolMikrotikAPI, enabled := true, credentials := some ⟨"admin", "secret"⟩ }

/-- The router's session: it answers `/system/resource/print` only. -/
def wrapSession : RouterOSClient := fun command =>
  if command = "/system/resource/print" then .ok [wrapReply] else .error "no such command"

/-- A new client connected to the router. -/
def wrapClient : MikrotikClient := (connect newMikrotikClient wrapRouter fun _ _ _ => .ok wrapSession).1

theorem getSystemMetrics_usage_wrapClient :
    ∃ metrics, getSystemMetrics wrapClient = .ok metrics ∧
      (UsageBounds metrics.memoryTotal metrics.memoryFree metrics.memoryUsage ∧
        UsageBounds metrics.diskTotal metrics.diskFree metrics.diskUsage) :=
  ⟨_, rfl, getSystemMetrics_usage wrapClient _ rfl⟩

/-- On that router the memory subtraction wraps to `2^64 - 1`, and the memory usage is above 100:
`float64(2^64 - 1) / 1 * 100`, about `1.8e21`. -/
theorem getSystemMetrics_wrapClient_memoryUsage :
    ∃ metrics, getSystemMetrics wrapClient = .ok metrics ∧ metrics.memoryTotal = 1 ∧
      metrics.memoryFree = 2 ∧ (metrics.memoryTotal - metrics.memoryFree).toNat = 2 ^ 64 - 1 ∧
      GoFloat.lt 100 metrics.memoryUsage = true := by
  have htotal : parsedField wrapReply "total-memory" parseUint64 0 = 1 := rfl
  have hfree : parsedField wrapReply "free-memory" parseUint64 0 = 2 := rfl
  refine ⟨_, rfl, htotal, hfree, by rw [htotal, hfree]; rfl, ?_⟩
  show GoFloat.lt 100 (usagePercent (parsedField wrapReply "total-memory" parseUint64 0)
    (parsedField wrapReply "free-memory" parseUint64 0) 0) = true
  have hused : ((1 : BitVec 64) - 2).toNat = 2 ^ 64 - 1 := rfl
  rw [htotal, hfree, usagePercent, if_pos (by decide)]
  dsimp only
  rw [hused, show (1 : BitVec 64).toNat = 1 from rfl,
    percent_eq_ofRat (by norm_num) (by norm_num) (by norm_num),
    show (100 : GoFloat) = GoFloat.ofRat 100 from rfl]
  have hexact : ∀ n : ℕ, n ≤ 2 ^ 53 → roundBinary64 (OfNat.ofNat n : ℚ) = OfNat.ofNat n :=
    fun n h => by simpa using roundBinary64_natCast h
  have hwrapped : 2 ≤ roundBinary64 ((2 ^ 64 - 1 : ℕ) : ℚ) ∧
      roundBinary64 ((2 ^ 64 - 1 : ℕ) : ℚ) ≤ 2 ^ 64 := by
    constructor
    · rw [← hexact 2 (by norm_num)]
      exact roundBinary64_mono (by norm_num)
    · rw [← roundBinary64_two_pow_64]
      exact roundBinary64_mono (by norm_num)
  rw [Nat.cast_one, hexact 1 (by norm_num), div_one, roundBinary64_idem,
    GoFloat.lt_ofRat_ofRat (GoFloat.abs_le_maxFinite_of_abs_le (by norm_num))
      (GoFloat.abs_le_maxFinite_of_abs_le_two_pow (n := 71) (by norm_num)
        (by rw [abs_of_nonneg (by linarith)]; linarith)),
    hexact 100 (by norm_num)]
  have hge : (200 : ℚ) ≤ roundBinary64 (roundBinary64 ((2 ^ 64 - 1 : ℕ) : ℚ) * 100) := by
    rw [← hexact 200 (by norm_num)]
    exact roundBinary64_mono (by linarith [hwrapped.1])
  exact decide_eq_true (by linarith)

/-! ## The uptime -/

/-- `int64(d.Seconds())` of the zero duration is zero. -/
theorem toInt64_durationSeconds_zero : (durationSeconds 0).toInt64 = 0 := by
  have hsec : ((0 : BitVec 64).sdiv 1000000000).toInt = 0 := by decide
  have hnsec : ((0 : BitVec 64).srem 1000000000).toInt = 0 := by decide
  have h0 : |((0 : ℤ) : ℚ)| ≤ maxFinite :=
    GoFloat.abs_intCast_le_maxFinite_of_abs_le (by norm_num)
  rw [durationSeconds, hsec, hnsec, show (1000000000 : GoFloat) = GoFloat.ofInt 1000000000 from rfl,
    GoFloat.ofInt_div_ofInt_of_dvd (by norm_num) (by norm_num) (by norm_num) (dvd_zero _),
    Int.zero_ediv, GoFloat.ofInt, GoFloat.add_ofRat h0 h0]
  simp only [Int.cast_zero, roundBinary64_zero, add_zero]
  apply BitVec.eq_of_toInt_eq
  rw [GoFloat.toInt_toInt64_ofRat (by simpa using h0) (by simp) (by simp)]
  simp

/-- `GetSystemMetrics` reports an uptime of zero seconds whatever the reply says:
`parseRouterOSUptime` parses nothing, in the legacy `1w2d3h4m5s` form or the API form
`1w2d03:04:05` alike. -/
theorem getSystemMetrics_uptime (m : MikrotikClient) (metrics : SystemMetrics)
    (h : getSystemMetrics m = .ok metrics) : metrics.uptime = 0 := by
  obtain ⟨client, device, -, h⟩ := getSystemMetrics_read m metrics h
  rw [readSystemMetrics] at h
  split at h
  · cases h
  · cases h
  · next res rest hrun =>
      cases h
      dsimp only
      split
      · exact toInt64_durationSeconds_zero
      · rfl

/-- A router whose resource reply reports an uptime of 30 seconds. -/
def uptimeReply : GoMap String String := ⟨[("uptime", "30s")], by decide⟩

/-- The router's session: it answers `/system/resource/print` only. -/
def uptimeSession : RouterOSClient := fun command =>
  if command = "/system/resource/print" then .ok [uptimeReply] else .error "no such command"

/-- A new client connected to the router. -/
def uptimeClient : MikrotikClient :=
  (connect newMikrotikClient wrapRouter fun _ _ _ => .ok uptimeSession).1

theorem getSystemMetrics_uptime_uptimeClient :
    uptimeReply.find? "uptime" = some "30s" ∧
      ∃ metrics, getSystemMetrics uptimeClient = .ok metrics ∧ metrics.uptime = 0 :=
  ⟨rfl, _, rfl, getSystemMetrics_uptime uptimeClient _ rfl⟩

/-! ## Interface counters -/

/-- `InterfaceMetrics`, without the `Timestamp` of the call. `Speed` is never set. -/
structure InterfaceMetrics where
  deviceID : String
  interfaceName : String
  status : String
  bytesIn : BitVec 64
  bytesOut : BitVec 64
  packetsIn : BitVec 64
  packetsOut : BitVec 64
  errorsIn : BitVec 64
  errorsOut : BitVec 64
  dropsIn : BitVec 64
  dropsOut : BitVec 64
  deriving DecidableEq

/-- The sentence of `Run("/interface/print", "=stats")`: the session answers a sentence given as
its words joined by spaces. -/
def interfacePrintStats : String := "/interface/print =stats"

/-- `iface.Map[key]`, the empty string for a missing key. -/
def mapIndex (res : GoMap String String) (key : String) : String := (res.find? key).getD ""

/-- The record the loop of `GetInterfaceMetrics` builds from one sentence. -/
def interfaceMetricsOf (deviceID : String) (iface : GoMap String String) : InterfaceMetrics :=
  { deviceID
    interfaceName := mapIndex iface "name"
    status := mapIndex iface "running"
    bytesIn := parsedField iface "rx-byte" parseUint64 0
    bytesOut := parsedField iface "tx-byte" parseUint64 0
    packetsIn := parsedField iface "rx-packet" parseUint64 0
    packetsOut := parsedField iface "tx-packet" parseUint64 0
    errorsIn := parsedField iface "rx-error" parseUint64 0
    errorsOut := parsedField iface "tx-error" parseUint64 0
    dropsIn := parsedField iface "rx-drop" parseUint64 0
    dropsOut := parsedField iface "tx-drop" parseUint64 0 }

/-- The body of `GetInterfaceMetrics` on a session, for the device `deviceID`. -/
def readInterfaceMetrics (client : RouterOSClient) (deviceID : String) :
    Except String (List InterfaceMetrics) :=
  match client interfacePrintStats with
  | .error err => .error ("failed to get interface stats: " ++ err)
  | .ok re => .ok (re.map (interfaceMetricsOf deviceID))

/-- `MikrotikClient.GetInterfaceMetrics`. -/
def getInterfaceMetrics (m : MikrotikClient) : Except String (List InterfaceMetrics) :=
  match hc : m.client, hd : m.device with
  | none, _ => .error "not connected"
  | some client, some device => readInterfaceMetrics client device.id
  | some _, none => absurd (m.connected_device (by rw [hc]; rfl)) (by rw [hd]; decide)

/-- The counters of a record, in the order of their fields. -/
def InterfaceMetrics.counters (r : InterfaceMetrics) : List ℕ :=
  [r.bytesIn, r.bytesOut, r.packetsIn, r.packetsOut, r.errorsIn, r.errorsOut, r.dropsIn,
    r.dropsOut].map BitVec.toNat

/-- The fields of the counters, in the same order. -/
def counterKeys : List String :=
  ["rx-byte", "tx-byte", "rx-packet", "tx-packet", "rx-error", "tx-error", "rx-drop", "tx-drop"]

/-- The value a counter takes from its field: the field's number when it is a `uint64` numeral,
0 when it is missing or is not one. -/
def counterValue : Option String → ℕ
  | some s => if Uint64Numeral s.toList then decimalValue s.toList else 0
  | none => 0

theorem toNat_parsedField_parseUint64 (res : GoMap String String) (key : String) :
    (parsedField res key parseUint64 0).toNat = counterValue (res.find? key) := by
  unfold parsedField counterValue
  cases res.find? key with
  | none => rfl
  | some s =>
      cases hp : parseUint s.toList with
      | ok n =>
          obtain ⟨hnum, hval⟩ := (parseUint_eq_ok_iff _ _).mp hp
          have hlt : n < 2 ^ 64 := by have := hnum.2.2; simp only [maxUint64] at this; omega
          have hmap : parseUint64 s.toList = .ok (BitVec.ofNat 64 n) := by
            rw [parseUint64, hp]; rfl
          dsimp only
          rw [hmap, if_pos hnum, hval]
          exact Nat.mod_eq_of_lt hlt
      | error e =>
          have hnot : ¬Uint64Numeral s.toList := fun hnum =>
            nomatch hp.symm.trans ((parseUint_eq_ok_iff _ _).mpr ⟨hnum, rfl⟩)
          have hmap : parseUint64 s.toList = .error e := by rw [parseUint64, hp]; rfl
          dsimp only
          rw [hmap, if_neg hnot]
          rfl

/-- Every record `GetInterfaceMetrics` builds has the sentence's `name` and `running`, and each
counter the value of its field. -/
theorem interfaceMetricsOf_counters (deviceID : String) (iface : GoMap String String) :
    (interfaceMetricsOf deviceID iface).interfaceName = mapIndex iface "name" ∧
      (interfaceMetricsOf deviceID iface).status = mapIndex iface "running" ∧
      (interfaceMetricsOf deviceID iface).counters =
        counterKeys.map fun key => counterValue (iface.find? key) := by
  refine ⟨rfl, rfl, ?_⟩
  simp only [InterfaceMetrics.counters, interfaceMetricsOf, counterKeys, List.map_cons,
    List.map_nil, toNat_parsedField_parseUint64]

theorem getInterfaceMetrics_of_client (m : MikrotikClient) (client : RouterOSClient)
    (device : Device) (hc : m.client = some client) (hd : m.device = some device) :
    getInterfaceMetrics m = readInterfaceMetrics client device.id := by
  obtain ⟨client?, device?, _⟩ := m
  cases hc
  cases hd
  rfl

/-- On a connected client, `GetInterfaceMetrics` returns one record per sentence of the reply, in
order, for the client's device, or the wrapped error of the command. -/
theorem getInterfaceMetrics_eq (m : MikrotikClient) (client : RouterOSClient) (device : Device)
    (hc : m.client = some client) (hd : m.device = some device) :
    getInterfaceMetrics m = match client interfacePrintStats with
      | .error err => .error ("failed to get interface stats: " ++ err)
      | .ok re => .ok (re.map (interfaceMetricsOf device.id)) := by
  rw [getInterfaceMetrics_of_client m client device hc hd, readInterfaceMetrics]

/-! ## Running a command -/

/-- `fmt.Sprintf("%s: %s\n", key, value)`. -/
def attributeLine (key value : String) : String := key ++ ": " ++ value ++ "\n"

/-- The conversion loop of `ExecuteCommand`: `result` extended by a line per attribute of each
sentence, from the `i`-th sentence on, `range` visiting the `j`-th sentence's map in the order
`order j`. -/
def replyText (order : ℕ → (res : GoMap String String) → GoMap.RangeOrder res) :
    ℕ → List (GoMap String String) → String → String
  | _, [], result => result
  | i, res :: re, result =>
      replyText order (i + 1) re
        ((order i res).entries.foldl (fun result (key, value) => result ++ attributeLine key value)
          result)

/-- `MikrotikClient.ExecuteCommand`, with `range` visiting the `j`-th reply sentence's map in the
order `order j`. -/
def executeCommand (m : MikrotikClient) (command : String)
    (order : ℕ → (res : GoMap String String) → GoMap.RangeOrder res) : Except String String :=
  match m.client with
  | none => .error "not connected"
  | some client =>
      match client command with
      | .error err => .error ("command execution failed: " ++ err)
      | .ok re => .ok (replyText order 0 re "")

/-! ## The text of a reply -/

/-- The lines `replyText` appends, sentence by sentence. -/
def replySentences (order : ℕ → (res : GoMap String String) → GoMap.RangeOrder res) :
    ℕ → List (GoMap String String) → List (List String)
  | _, [] => []
  | i, res :: re =>
      (order i res).entries.map (fun e => attributeLine e.1 e.2) :: replySentences order (i + 1) re

theorem data_foldl_append {α : Type} (f : α → String) (l : List α) (acc : String) :
    (l.foldl (fun r e => r ++ f e) acc).data = acc.data ++ l.flatMap fun e => (f e).data := by
  induction l generalizing acc with
  | nil => simp
  | cons e l ih => simp [ih, String.data_append, List.append_assoc]

theorem data_replyText (order : ℕ → (res : GoMap String String) → GoMap.RangeOrder res)
    (i : ℕ) (re : List (GoMap String String)) (result : String) :
    (replyText order i re result).data =
      result.data ++ (replySentences order i re).flatten.flatMap String.data := by
  induction re generalizing i result with
  | nil => simp [replyText, replySentences]
  | cons res re ih =>
      rw [replyText, ih, replySentences, List.flatten_cons, List.flatMap_append, List.flatMap_map,
        ← List.append_assoc]
      exact congrArg (· ++ _) (data_foldl_append (fun e : String × String => attributeLine e.1 e.2) _ result)

theorem replySentences_perm (order : ℕ → (res : GoMap String String) → GoMap.RangeOrder res)
    (i : ℕ) (re : List (GoMap String String)) :
    List.Forall₂ (fun ls res => ls.Perm (res.entries.map fun e => attributeLine e.1 e.2))
      (replySentences order i re) re := by
  induction re generalizing i with
  | nil => exact .nil
  | cons res re ih => exact .cons ((order i res).perm.map _) (ih (i + 1))

theorem takeWhile_attributeLine {key : String} (hk : ':' ∉ key.data) (value : String)
    (rest : List Char) : ((attributeLine key value).data ++ rest).takeWhile (· != ':') = key.data := by
  simp only [attributeLine, String.data_append, List.append_assoc]
  rw [List.takeWhile_append_of_pos fun c hc => by simpa using fun h : c = ':' => hk (h ▸ hc)]
  simp

/-- The first two entries of a list exchanged. -/
def swapFirstTwo {α : Type} : List α → List α
  | a :: b :: rest => b :: a :: rest
  | l => l

theorem swapFirstTwo_perm {α : Type} : ∀ l : List α, (swapFirstTwo l).Perm l
  | _ :: _ :: _ => List.Perm.swap _ _ _
  | [] | [_] => List.Perm.refl _

theorem swapFirstTwo_of_length_lt {α : Type} : ∀ {l : List α}, l.length < 2 → swapFirstTwo l = l
  | [], _ | [_], _ => rfl

/-- The visiting order of a map that exchanges its first two entries. -/
def swappedOrder (res : GoMap String String) : GoMap.RangeOrder res :=
  ⟨swapFirstTwo res.entries, swapFirstTwo_perm _⟩

/-- With keys free of `:`, the text of a reply that has a sentence of two attributes changes when
the first two attributes of every sentence change places: the text up to the first `:` is the
first key `range` visits in the first such sentence. -/
theorem replyLines_swapped_ne (re : List (GoMap String String))
    (hkeys : ∀ res ∈ re, ∀ e ∈ res.entries, ':' ∉ e.1.data)
    (htwo : ∃ res ∈ re, 2 ≤ res.entries.length) (i : ℕ) :
    (replySentences (fun _ => GoMap.RangeOrder.insertion) i re).flatten.flatMap String.data ≠
      (replySentences (fun _ => swappedOrder) i re).flatten.flatMap String.data := by
  induction re generalizing i with
  | nil => simp at htwo
  | cons res re ih =>
      simp only [replySentences, List.flatten_cons, List.flatMap_append, GoMap.RangeOrder.insertion,
        swappedOrder]
      by_cases hlt : res.entries.length < 2
      · have htwo' : ∃ r ∈ re, 2 ≤ r.entries.length := by
          obtain ⟨r, hr, hlen⟩ := htwo
          rcases List.mem_cons.mp hr with rfl | hr
          exacts [absurd hlen (by omega), ⟨r, hr, hlen⟩]
        rw [swapFirstTwo_of_length_lt hlt]
        exact fun heq => ih (fun r hr => hkeys r (List.mem_cons_of_mem _ hr)) htwo' (i + 1)
          (List.append_cancel_left heq)
      · obtain ⟨a, b, rest, h⟩ : ∃ a b rest, res.entries = a :: b :: rest := by
          match res.entries, hlt with
          | a :: b :: rest, _ => exact ⟨a, b, rest, rfl⟩
          | [], h | [_], h => exact absurd (by simp) h
        have hk := hkeys res (List.mem_cons_self _ _)
        have hab : a.1 ≠ b.1 := by
          have hnd := res.nodup
          simp only [h, List.map_cons, List.nodup_cons, List.mem_cons] at hnd
          exact fun e => hnd.1 (.inl e)
        rw [h] at hk ⊢
        intro heq
        have hfirst := congrArg (List.takeWhile (· != ':')) heq
        simp only [swapFirstTwo, List.map_cons, List.flatMap_cons, List.append_assoc] at hfirst
        rw [takeWhile_attributeLine (hk a (by simp)), takeWhile_attributeLine (hk b (by simp))]
          at hfirst
        exact hab (String.ext hfirst)

/-- What `ExecuteCommand` returns on a connected client whose command answers: for every order in
which `range` visits the sentences' maps, one `key: value` line per attribute, the lines of each
sentence together and the sentences in reply order; and, as soon as a sentence has two attributes
and no key holds a `:`, two orders that give different texts. -/
theorem executeCommand_text (m : MikrotikClient) (command : String) {client : RouterOSClient}
    (hc : m.client = some client) {re : List (GoMap String String)} (hre : client command = .ok re) :
    (∀ order : ℕ → (res : GoMap String String) → GoMap.RangeOrder res,
      ∃ sentences : List (List String),
        List.Forall₂ (fun ls res => ls.Perm (res.entries.map fun e => attributeLine e.1 e.2))
          sentences re ∧
        executeCommand m command order = .ok (String.join sentences.flatten)) ∧
    ((∀ res ∈ re, ∀ e ∈ res.entries, ':' ∉ e.1.data) → (∃ res ∈ re, 2 ≤ res.entries.length) →
      executeCommand m command (fun _ => .insertion) ≠ executeCommand m command fun _ => swappedOrder) := by
  have hrun : ∀ order, executeCommand m command order = .ok (replyText order 0 re "") := fun _ => by
    simp only [executeCommand, hc, hre]
  have htext : ∀ order, replyText order 0 re "" = String.join (replySentences order 0 re).flatten :=
    fun order => String.ext (by rw [data_replyText, String.data_join]; rfl)
  refine ⟨fun order => ⟨_, replySentences_perm order 0 re, (hrun order).trans (by rw [htext])⟩,
    fun hkeys htwo heq => replyLines_swapped_ne re hkeys htwo 0 ?_⟩
  rw [hrun, hrun] at heq
  simpa [data_replyText] using congrArg String.data (Except.ok.inj heq)

theorem executeCommand_text_wrapClient :
    executeCommand wrapClient "/system/resource/print" (fun _ => .insertion) ≠
      executeCommand wrapClient "/system/resource/print" fun _ => swappedOrder :=
  (@executeCommand_text wrapClient "/system/resource/print" wrapSession rfl [wrapReply] rfl).2 (by decide)
    ⟨wrapReply, List.mem_singleton_self _, by decide⟩

end GoNms.Mikrotik
