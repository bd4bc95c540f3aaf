import GoNms.Monitoring.Poll

set_option autoImplicit false

/-! # The realtime execution feature

`POST /realtime/execute` and `POST /realtime/stats` take a target in the request body, not a
registered device. `executionService` builds a device `adhoc` at the target's address, refuses any
driver but `mikrotik`, connects a new RouterOS client to it and runs the command, or reads the
system and interface metrics. The handler answers 400 when the body does not bind, 500 when the
service returns an error, which only the driver check does, and 200 with the service's response
otherwise: a failed connection or command is reported in the response's `status` and `error`
(`handler_status`).

The stats endpoint reads a device the way the background poll of the monitoring feature does:
the same dial, then `GetSystemMetrics` and `GetInterfaceMetrics` on the session. When it succeeds,
the poll of the same target writes exactly the metrics it reports, under the target's IP where the
stats carry the device ID `adhoc` (`getStats_poll_agree`). Both dial with the target's username and
password. -/

namespace GoNms.Execution

open GoNms.Go GoNms.Mikrotik GoNms.Monitoring

/-- `ExecuteCommandRequest`, as `ShouldBindJSON` decodes it. -/
structure ExecuteCommandRequest where
  target : Target
  command : String

/-- `GetStatsRequest`, as `ShouldBindJSON` decodes it. -/
structure GetStatsRequest where
  target : Target

/-- `ExecuteCommandResponse`. -/
structure ExecuteCommandResponse where
  status : String
  output : String
  error : String

/-- The `data` map of a `GetStatsResponse`: `"system"` and `"interfaces"`. -/
structure StatsData where
  system : SystemMetrics
  interfaces : List InterfaceMetrics

/-- `GetStatsResponse`; `data` is `nil` unless the call succeeded. -/
structure GetStatsResponse where
  status : String
  data : Option StatsData
  error : String

/-- The device both service methods build for a target. -/
def adhocDevice (target : Target) : Device :=
  { id := "adhoc", name := "", ipAddress := target.ip, deviceType := "",
    protocol := ProtocolMikrotikAPI, enabled := false,
    credentials := some ⟨target.auth.username, target.auth.password⟩ }

/-- Steps 1 to 4 of both service methods: the driver check, then `Connect`; a failed connect is
the response `failed`, a connected client goes on with `run`. -/
def ExecutionService.session {R : Type} (target : Target)
    (dial : RouterOSDial) (failed : String → R)
    (run : MikrotikClient → R) : Except String R :=
  if target.driver ≠ "mikrotik" then .error ("unsupported driver: " ++ target.driver)
  else
    match connect newMikrotikClient (adhocDevice target) dial with
    | (_, some err) => .ok (failed ("failed to connect: " ++ err))
    | (client, none) => .ok (run client)

/-- `executionService.ExecuteCommand`, with `range` visiting the reply's maps in the order
`order`. -/
def ExecutionService.executeCommand (req : ExecuteCommandRequest)
    (dial : RouterOSDial)
    (order : ℕ → (res : GoMap String String) → GoMap.RangeOrder res) :
    Except String ExecuteCommandResponse :=
  ExecutionService.session req.target dial (fun err => ⟨"error", "", err⟩) fun client =>
    match Mikrotik.executeCommand client req.command order with
    | .error err => ⟨"error", "", "execution failed: " ++ err⟩
    | .ok output => ⟨"success", output, ""⟩

/-- `executionService.GetStats`. -/
def ExecutionService.getStats (req : GetStatsRequest)
    (dial : RouterOSDial) :
    Except String GetStatsResponse :=
  ExecutionService.session req.target dial (fun err => ⟨"error", none, err⟩) fun client =>
    match getSystemMetrics client with
    | .error err => ⟨"error", none, "failed to get system metrics: " ++ err⟩
    | .ok systemMetrics =>
        match getInterfaceMetrics client with
        | .error err => ⟨"error", none, "failed to get interface metrics: " ++ err⟩
        | .ok interfaceMetrics => ⟨"success", some ⟨systemMetrics, interfaceMetrics⟩, ""⟩

/-- The shared body of the two handler methods: bind, call the service, answer. -/
def ExecutionHandler.handle {α β : Type} (service : α → Except String β)
    (req : Except String α) : HandlerResponse β :=
  match req with
  | .error err => ⟨400, .error err⟩
  | .ok req =>
      match service req with
      | .error err => ⟨500, .error err⟩
      | .ok response => ⟨200, .ok response⟩

/-- `ExecutionHandler.ExecuteCommand`, on the outcome of `ShouldBindJSON`. -/
def ExecutionHandler.executeCommand (req : Except String ExecuteCommandRequest)
    (dial : RouterOSDial)
    (order : ℕ → (res : GoMap String String) → GoMap.RangeOrder res) :
    HandlerResponse ExecuteCommandResponse :=
  ExecutionHandler.handle (fun req => ExecutionService.executeCommand req dial order) req

/-- `ExecutionHandler.GetStats`, on the outcome of `ShouldBindJSON`. -/
def ExecutionHandler.getStats (req : Except String GetStatsRequest)
    (dial : RouterOSDial) :
    HandlerResponse GetStatsResponse :=
  ExecutionHandler.handle (fun req => ExecutionService.getStats req dial) req

/-! ## The status of a response -/

section Session

variable {R : Type} {target : Target}
  {dial : RouterOSDial}
  {failed : String → R} {run : MikrotikClient → R}

theorem session_of_driver (h : target.driver ≠ "mikrotik") :
    ExecutionService.session target dial failed run = .error ("unsupported driver: " ++ target.driver) :=
  if_pos h

theorem session_of_dial_error {e : String} (hdrv : target.driver = "mikrotik")
    (h : dial (target.ip ++ ":8728") target.auth.username target.auth.password = .error e) :
    ExecutionService.session target dial failed run = .ok (failed ("failed to connect: " ++ ("failed to connect: " ++ e))) := by
  simp only [ExecutionService.session, hdrv, ne_eq, not_true_eq_false, if_false, connect, adhocDevice, h]

theorem session_of_dial_ok {client : RouterOSClient} (hdrv : target.driver = "mikrotik")
    (h : dial (target.ip ++ ":8728") target.auth.username target.auth.password = .ok client) :
    ExecutionService.session target dial failed run =
      .ok (run ⟨some client, some (adhocDevice target), fun _ => rfl⟩) := by
  simp only [ExecutionService.session, hdrv, ne_eq, not_true_eq_false, if_false, connect, adhocDevice, h]

end Session

/-- The metrics of a session do not depend on the device ID they are read for, but for the ID. -/
theorem readSystemMetrics_deviceID (client : RouterOSClient) (id id' : String) :
    readSystemMetrics client id = (readSystemMetrics client id').map fun m => { m with deviceID := id } := by
  unfold readSystemMetrics
  split <;> rfl

theorem readInterfaceMetrics_deviceID (client : RouterOSClient) (id id' : String) :
    readInterfaceMetrics client id =
      (readInterfaceMetrics client id').map (List.map fun m => { m with deviceID := id }) := by
  unfold readInterfaceMetrics
  split
  · rfl
  · simp only [Except.map, List.map_map]
    rfl

theorem deviceID_of_readSystemMetrics {client : RouterOSClient} {id : String} {m : SystemMetrics}
    (h : readSystemMetrics client id = .ok m) : m.deviceID = id := by
  unfold readSystemMetrics at h
  split at h <;> cases h
  rfl

theorem deviceID_of_readInterfaceMetrics {client : RouterOSClient} {id : String}
    {ms : List InterfaceMetrics} (h : readInterfaceMetrics client id = .ok ms) :
    ∀ m ∈ ms, m.deviceID = id := by
  unfold readInterfaceMetrics at h
  split at h <;> cases h
  simp [interfaceMetricsOf]

/-- A stats response with data comes from a session the dial opened, on which both reads of
`adhoc` succeeded with the data's metrics. -/
theorem getStats_inv {target : Target}
    {dial : RouterOSDial} {r : GetStatsResponse}
    {d : StatsData} (h : ExecutionService.getStats ⟨target⟩ dial = .ok r) (hd : r.data = some d) :
    ∃ client, dial (target.ip ++ ":8728") target.auth.username target.auth.password = .ok client ∧
      readSystemMetrics client "adhoc" = .ok d.system ∧
      readInterfaceMetrics client "adhoc" = .ok d.interfaces := by
  have hdrv : target.driver = "mikrotik" := by
    by_contra hdrv
    rw [ExecutionService.getStats, session_of_driver hdrv] at h
    cases h
  cases hdial : dial (target.ip ++ ":8728") target.auth.username target.auth.password with
  | error e =>
      rw [ExecutionService.getStats, session_of_dial_error hdrv hdial] at h
      cases h
      cases hd
  | ok client =>
      rw [ExecutionService.getStats, session_of_dial_ok hdrv hdial,
        getSystemMetrics_of_client _ client _ rfl rfl,
        getInterfaceMetrics_of_client _ client _ rfl rfl] at h
      refine ⟨client, rfl, ?_⟩
      cases hs : readSystemMetrics client "adhoc" <;> cases hi : readInterfaceMetrics client "adhoc" <;>
        simp only [adhocDevice, hs, hi, Except.ok.injEq] at h <;> subst h <;> cases hd
      exact ⟨rfl, rfl⟩

/-- When `/realtime/stats` succeeds on a target, the background poll of the same target writes
exactly the metrics the stats report, under the target's IP in place of `adhoc`, and ends without
error. -/
theorem getStats_poll_agree (target : Target)
    (dial : RouterOSDial) {r : GetStatsResponse}
    {d : StatsData} (h : ExecutionService.getStats ⟨target⟩ dial = .ok r) (hd : r.data = some d) :
    d.system.deviceID = "adhoc" ∧ (∀ m ∈ d.interfaces, m.deviceID = "adhoc") ∧
      (pollDevice (deviceTargetOf target) dial).1.filterMap PollEvent.written? =
        writeSystemMetrics { d.system with deviceID := target.ip } ++
          writeInterfaceMetrics (d.interfaces.map fun m => { m with deviceID := target.ip }) ∧
      (pollDevice (deviceTargetOf target) dial).2 = none := by
  obtain ⟨client, hdial, hs, hi⟩ := getStats_inv h hd
  have hs' : readSystemMetrics client target.ip = .ok { d.system with deviceID := target.ip } := by
    rw [readSystemMetrics_deviceID client target.ip "adhoc", hs]; rfl
  have hi' : readInterfaceMetrics client target.ip =
      .ok (d.interfaces.map fun m => { m with deviceID := target.ip }) := by
    rw [readInterfaceMetrics_deviceID client target.ip "adhoc", hi]; rfl
  exact ⟨deviceID_of_readSystemMetrics hs, deviceID_of_readInterfaceMetrics hi,
    pollDevice_written_of_reads hdial hs' hi', by rw [pollDevice_of_dial_ok hdial]⟩

/-- A target behind the `mikrotik` driver. -/
def realtimeTarget : Target := ⟨"10.0.0.1", "mikrotik", ⟨"admin", "secret", 8728⟩⟩

/-- A router that logs in `admin` with password `secret` only, and whose session answers every
command with one sentence without attributes. -/
def blankSentenceDial : RouterOSDial := fun _ username password =>
  if username = "admin" ∧ password = "secret" then .ok fun _ => .ok [GoMap.empty]
  else .error "invalid user name or password"

theorem getStats_poll_agree_realtimeTarget :
    ∃ r d, ExecutionService.getStats ⟨realtimeTarget⟩ blankSentenceDial = .ok r ∧ r.data = some d ∧
      d.system.deviceID = "adhoc" ∧ (∀ m ∈ d.interfaces, m.deviceID = "adhoc") ∧
      (pollDevice (deviceTargetOf realtimeTarget) blankSentenceDial).1.filterMap PollEvent.written? =
        writeSystemMetrics { d.system with deviceID := realtimeTarget.ip } ++
          writeInterfaceMetrics (d.interfaces.map fun m => { m with deviceID := realtimeTarget.ip }) ∧
      (pollDevice (deviceTargetOf realtimeTarget) blankSentenceDial).2 = none :=
  ⟨_, _, rfl, rfl, getStats_poll_agree realtimeTarget blankSentenceDial rfl rfl⟩

end GoNms.Execution
