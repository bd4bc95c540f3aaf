import GoNms.Mikrotik.Client
import GoNms.Monitoring.Inventory

set_option autoImplicit false

/-! # Polling a target

`PollDevice` builds a device from a `DeviceTarget` (its IP is both the ID and the address), connects
a new RouterOS client to it, and hands what `GetSystemMetrics` and `GetInterfaceMetrics` return to
the `MetricWriter`. `InfluxDBWriter` writes one `system_metrics` point for the system metrics and
one `interface_metrics` point per interface record. A failed read is logged and the other read
still runs; a failed connect ends the poll with its error, which the goroutine of `runCollection`
logs.

`pollDevice_points` says what is written, for every target and every session: nothing when the
connect fails. Otherwise every point carries the target's IP as `device_id`; there is one
`system_metrics` point exactly when `/system/resource/print` answers a sentence; and there is one
`interface_metrics` point per sentence of `/interface/print =stats`, in order, whose `bytes_in` and
`bytes_out` are the values of its `rx-byte` and `tx-byte` fields. The dial sends the target's
username and password. -/

namespace GoNms.Monitoring

open GoNms.Go GoNms.Mikrotik

/-- A point `InfluxDBWriter` writes: its measurement, tags and fields; the time stamp is left out. -/
inductive Point where
  /-- `system_metrics`, tag `device_id`, fields `cpu_usage`, `memory_usage` and `uptime` -/
  | systemMetrics (deviceID : String) (cpuUsage memoryUsage : GoFloat) (uptime : BitVec 64)
  /-- `interface_metrics`, tags `device_id` and `interface`, fields `bytes_in` and `bytes_out` -/
  | interfaceMetrics (deviceID iface : String) (bytesIn bytesOut : BitVec 64)

namespace Point

/-- The `device_id` tag. -/
def deviceID : Point → String
  | .systemMetrics d .. | .interfaceMetrics d .. => d

def isSystem : Point → Bool
  | .systemMetrics .. => true
  | .interfaceMetrics .. => false

/-- The `interface` tag and the two byte counters of an `interface_metrics` point. -/
def interface? : Point → Option (String × ℕ × ℕ)
  | .interfaceMetrics _ iface bytesIn bytesOut => some (iface, bytesIn.toNat, bytesOut.toNat)
  | .systemMetrics .. => none

end Point

/-- `InfluxDBWriter.WriteSystemMetrics`. -/
def writeSystemMetrics (m : SystemMetrics) : List Point :=
  [.systemMetrics m.deviceID m.cpuUsage m.memoryUsage m.uptime]

/-- `InfluxDBWriter.WriteInterfaceMetrics`. -/
def writeInterfaceMetrics (metrics : List InterfaceMetrics) : List Point :=
  metrics.map fun m => .interfaceMetrics m.deviceID m.interfaceName m.bytesIn m.bytesOut

/-- What a poll does that can be seen: a log line, or a point written. -/
inductive PollEvent where
  | log (line : String)
  | write (point : Point)

/-- The point of a write. -/
def PollEvent.written? : PollEvent → Option Point
  | .write p => some p
  | .log _ => none

/-- The device `PollDevice` builds for a target. -/
def targetDevice (target : DeviceTarget) : Device :=
  { id := target.ip, name := "", ipAddress := target.ip, deviceType := "",
    protocol := ProtocolMikrotikAPI, enabled := false,
    credentials := some ⟨target.username, target.password⟩ }

/-- Step 1 of `PollDevice`: the system metrics are written, or their error logged. -/
def systemEvents (client : MikrotikClient) (ip : String) : List PollEvent :=
  match getSystemMetrics client with
  | .error err => [.log ("Error collecting system metrics for " ++ ip ++ ": " ++ err)]
  | .ok metrics => (writeSystemMetrics metrics).map .write

/-- Step 2 of `PollDevice`: the interface metrics are written, or their error logged. -/
def interfaceEvents (client : MikrotikClient) (ip : String) : List PollEvent :=
  match getInterfaceMetrics client with
  | .error err => [.log ("Error collecting interface metrics for " ++ ip ++ ": " ++ err)]
  | .ok metrics => (writeInterfaceMetrics metrics).map .write

/-- `PollDevice`, with `dial` for `routeros.DialTimeout`: what it logs and writes, and its error. -/
def pollDevice (target : DeviceTarget)
    (dial : RouterOSDial) :
    List PollEvent × Option String :=
  let (client, err) := connect newMikrotikClient (targetDevice target) dial
  match err with
  | some err => ([], some ("failed to connect to " ++ target.ip ++ ": " ++ err))
  | none => (systemEvents client target.ip ++ interfaceEvents client target.ip, none)

theorem Point.interface?_of_isSystem {p : Point} (h : p.isSystem = true) : p.interface? = none := by
  cases p <;> simp_all [Point.isSystem, Point.interface?]

theorem filterMap_written?_map_write (ps : List Point) :
    (ps.map PollEvent.write).filterMap PollEvent.written? = ps := by
  rw [List.filterMap_map]
  exact List.filterMap_some ps

theorem interface?_writeInterfaceMetrics (metrics : List InterfaceMetrics) :
    (writeInterfaceMetrics metrics).filterMap Point.interface? =
      metrics.map fun m => (m.interfaceName, m.bytesIn.toNat, m.bytesOut.toNat) := by
  rw [writeInterfaceMetrics, List.filterMap_map]
  exact congrFun (List.filterMap_eq_map _) metrics

section Connected

variable (m : MikrotikClient) (client : RouterOSClient) (device : Device) (ip : String)
  (hc : m.client = some client) (hd : m.device = some device)
include hc hd

/-- The points of step 1 on a connected client: one exactly when the resource reply has a
sentence, a `system_metrics` point of the device. -/
theorem system_points :
    (∀ p ∈ (systemEvents m ip).filterMap PollEvent.written?,
        p.deviceID = device.id ∧ p.isSystem = true) ∧
      ((systemEvents m ip).filterMap PollEvent.written?).length =
        match client "/system/resource/print" with
        | .ok (_ :: _) => 1
        | _ => 0 := by
  rw [systemEvents, getSystemMetrics_of_client m client device hc hd, readSystemMetrics]
  cases client "/system/resource/print" with
  | error err => simp [PollEvent.written?]
  | ok re =>
      cases re <;> simp [PollEvent.written?, writeSystemMetrics, Point.deviceID, Point.isSystem]

/-- The points of step 2 on a connected client: one `interface_metrics` point of the device per
sentence of the reply, in order, with its name and byte counters. -/
theorem interface_points :
    (∀ p ∈ (interfaceEvents m ip).filterMap PollEvent.written?,
        p.deviceID = device.id ∧ p.isSystem = false) ∧
      ((interfaceEvents m ip).filterMap PollEvent.written?).filterMap Point.interface? =
        match client interfacePrintStats with
        | .ok re => re.map fun iface => (mapIndex iface "name",
            counterValue (iface.find? "rx-byte"), counterValue (iface.find? "tx-byte"))
        | .error _ => [] := by
  rw [interfaceEvents, getInterfaceMetrics_eq m client device hc hd]
  cases client interfacePrintStats with
  | error err => simp [PollEvent.written?]
  | ok re =>
    simp only [filterMap_written?_map_write, interface?_writeInterfaceMetrics, List.map_map]
    refine ⟨?_, ?_⟩
    · simp [writeInterfaceMetrics, Point.deviceID, Point.isSystem, interfaceMetricsOf]
    · congr 1
      funext iface
      simp only [Function.comp_apply, interfaceMetricsOf, toNat_parsedField_parseUint64]

end Connected

section Dial

variable {target : DeviceTarget} {dial : RouterOSDial}

theorem pollDevice_of_dial_error {e : String} (h : dial (target.ip ++ ":8728") target.username target.password = .error e) :
    pollDevice target dial =
      ([], some ("failed to connect to " ++ target.ip ++ ": " ++ ("failed to connect: " ++ e))) := by
  simp only [pollDevice, connect, targetDevice, h]

theorem pollDevice_of_dial_ok {client : RouterOSClient}
    (h : dial (target.ip ++ ":8728") target.username target.password = .ok client) :
    pollDevice target dial =
      let m : MikrotikClient := ⟨some client, some (targetDevice target), fun _ => rfl⟩
      (systemEvents m target.ip ++ interfaceEvents m target.ip, none) := by
  simp only [pollDevice, connect, targetDevice, h]

/-- When both reads of a dialed session succeed, the poll writes the system point and one point per
interface record. -/
theorem pollDevice_written_of_reads {client : RouterOSClient}
    (h : dial (target.ip ++ ":8728") target.username target.password = .ok client) {sm : SystemMetrics}
    {im : List InterfaceMetrics} (hs : readSystemMetrics client target.ip = .ok sm)
    (hi : readInterfaceMetrics client target.ip = .ok im) :
    (pollDevice target dial).1.filterMap PollEvent.written? =
      writeSystemMetrics sm ++ writeInterfaceMetrics im := by
  let m : MikrotikClient := ⟨some client, some (targetDevice target), fun _ => rfl⟩
  rw [pollDevice_of_dial_ok h]
  simp only [systemEvents, interfaceEvents]
  rw [getSystemMetrics_of_client m client _ rfl rfl, getInterfaceMetrics_of_client m client _ rfl rfl]
  simp only [targetDevice, hs, hi, List.filterMap_append, filterMap_written?_map_write]

end Dial

/-- What one poll writes, for every target, every dial and every session: nothing when the dial
fails, and otherwise no error, only points of the target, one `system_metrics` point exactly when
the resource reply has a sentence, and one `interface_metrics` point per interface sentence, in
order, with its name and byte counters. -/
theorem pollDevice_points (target : DeviceTarget)
    (dial : RouterOSDial) :
    let points := (pollDevice target dial).1.filterMap PollEvent.written?
    match dial (target.ip ++ ":8728") target.username target.password with
    | .error e => points = [] ∧
        (pollDevice target dial).2 =
          some ("failed to connect to " ++ target.ip ++ ": " ++ ("failed to connect: " ++ e))
    | .ok client =>
        (pollDevice target dial).2 = none ∧ (∀ p ∈ points, p.deviceID = target.ip) ∧
        (points.filter Point.isSystem).length =
          (match client "/system/resource/print" with
          | .ok (_ :: _) => 1
          | _ => 0) ∧
        points.filterMap Point.interface? =
          match client interfacePrintStats with
          | .ok re => re.map fun iface => (mapIndex iface "name",
              counterValue (iface.find? "rx-byte"), counterValue (iface.find? "tx-byte"))
          | .error _ => [] := by
  intro points
  cases hdial : dial (target.ip ++ ":8728") target.username target.password with
  | error e => simp [points, pollDevice_of_dial_error hdial]
  | ok client =>
      let m : MikrotikClient := ⟨some client, some (targetDevice target), fun _ => rfl⟩
      obtain ⟨hsysID, hsysLen⟩ := system_points m client _ target.ip rfl rfl
      obtain ⟨hifID, hifMap⟩ := interface_points m client _ target.ip rfl rfl
      simp only [points, pollDevice_of_dial_ok hdial, List.filterMap_append]
      refine ⟨trivial, ?_, ?_, ?_⟩
      · rintro p hp
        rcases List.mem_append.mp hp with hp | hp
        exacts [(hsysID p hp).1, (hifID p hp).1]
      · rw [List.filter_append, List.filter_eq_self.mpr fun p hp => (hsysID p hp).2,
          List.filter_eq_nil_iff.mpr fun p hp => by simp [(hifID p hp).2], List.append_nil]
        exact hsysLen
      · rw [List.filterMap_eq_nil_iff.mpr
          fun p hp => Point.interface?_of_isSystem (hsysID p hp).2, List.nil_append]
        exact hifMap

end GoNms.Monitoring
