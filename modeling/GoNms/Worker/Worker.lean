import GoNms.Worker.Adapter
import GoNms.Common.Model
import GoNms.Device.Model

set_option autoImplicit false

/-! # `Worker.processTask`

For each `PollTask` the worker picks the adapter by protocol (`mikrotik_api` fetches system
resources and pings for the RTT; any other protocol only pings), writes one InfluxDB point, and
publishes one `Metric` on `nms.metrics`. The point's fields are `rtt_ms`, `success` and
`poll_duration_ms`; the metric's values are `rtt_ms` and `success` overlaid with the adapter's
metrics, copied in the map's iteration order. Errors of the write and of the publish are logged
only, and the error of `json.Marshal` is dropped, leaving an empty payload.

A poll's contact with the world is taken as given (`PollWorld`): the device's RouterOS reply, the
outcome of `ping`, the poll's duration, and the errors of the write and the publish. -/

namespace GoNms

open GoNms.Go

/-- What one poll meets: the reply to `/system/resource/print` (`none` when the API is out of
reach), the time of a successful `ping`, the poll's duration, and the errors the InfluxDB write
and the NATS publish end with. Durations are `time.Duration`s, in nanoseconds. -/
structure PollWorld where
  resources : Option (List (GoMap String String))
  ping : Option (BitVec 64)
  duration : BitVec 64
  writeErr : Option String
  publishErr : Option String

/-- An InfluxDB point: measurement, tags and fields (its time is left out). -/
structure Point where
  measurement : String
  tags : GoMap String String
  fields : GoMap String GoValue

/-- What `processTask` does that can be observed. -/
inductive WorkerEvent where
  | writePoint (p : Point)
  | publish (subject : String) (payload : Payload)
  | log (line : String)

/-- The adapter selection: the RTT, the success flag and the adapter's metrics. -/
def pollDevice (task : PollTask) (world : PollWorld) : BitVec 64 × Bool × GoMap String GoValue :=
  if task.protocol = "mikrotik_api" then
    let (m, ok) := fetchSystemResources world.resources
    ((ping world.ping).1, ok, m)
  else
    let (rtt, success) := ping world.ping
    (rtt, success, GoMap.empty)

/-- `float64(rtt.Microseconds()) / 1000.0`. -/
def rttMillis (rtt : BitVec 64) : GoFloat := GoFloat.ofInt (rtt.sdiv 1000).toInt / 1000

/-- `float64(duration.Milliseconds())`. -/
def durationMillis (duration : BitVec 64) : GoFloat := GoFloat.ofInt (duration.sdiv 1000000).toInt

/-- The point's fields. -/
def pointFields (rttMs : GoFloat) (success : Bool) (duration : BitVec 64) : GoMap String GoValue :=
  ⟨[("rtt_ms", .float64 rttMs), ("success", .bool success),
    ("poll_duration_ms", .float64 (durationMillis duration))],
   by simp only [List.map_cons, List.map_nil]; decide⟩

/-- The metric's values before the adapter's metrics are copied in. -/
def baseValues (rttMs : GoFloat) (success : Bool) : GoMap String GoValue :=
  ⟨[("rtt_ms", .float64 rttMs), ("success", .bool success)],
   by simp only [List.map_cons, List.map_nil]; decide⟩

/-- `payload, _ := json.Marshal(metric)`: the error is dropped and the payload left empty. -/
def marshalPayload (metric : Metric) : Payload :=
  match metric.marshal with
  | .ok doc => .json doc
  | .error _ => .empty

/-- `Worker.processTask`, when `range` visits the adapter's metrics in the order `order`. -/
def processTask (task : PollTask) (world : PollWorld) (order : List (String × GoValue)) :
    List WorkerEvent :=
  let (rtt, success, _) := pollDevice task world
  let rttMs := rttMillis rtt
  let p : Point :=
    { measurement := "device_poll",
      tags := ⟨[("device_id", task.deviceID), ("ip_address", task.ipAddress),
        ("device_type", task.deviceType)], by simp only [List.map_cons, List.map_nil]; decide⟩,
      fields := pointFields rttMs success world.duration }
  let writeLog := match world.writeErr with
    | some err => [WorkerEvent.log ("Error writing metrics to Influx: " ++ err)]
    | none => []
  let values := order.foldl (fun m e => m.insert e.1 e.2) (baseValues rttMs success)
  let metric : Metric :=
    { deviceID := task.deviceID, deviceName := "", ipAddress := task.ipAddress, values }
  let publishLog := match world.publishErr with
    | some err => [WorkerEvent.log ("Error publishing metrics to NATS: " ++ err)]
    | none => []
  .writePoint p :: writeLog ++ .publish "nms.metrics" (marshalPayload metric) :: publishLog

/-! ## What a poll writes and publishes -/

/-- The point an event writes, if it writes one. -/
def WorkerEvent.point? : WorkerEvent → Option Point
  | .writePoint p => some p
  | _ => none

/-- The message an event publishes, if it publishes one. -/
def WorkerEvent.published? : WorkerEvent → Option (String × Payload)
  | .publish subject payload => some (subject, payload)
  | _ => none

/-- The metric `processTask` builds for the task. -/
def pollMetric (task : PollTask) (world : PollWorld) (order : List (String × GoValue)) : Metric :=
  { deviceID := task.deviceID, deviceName := "", ipAddress := task.ipAddress,
    values := order.foldl (fun m e => m.insert e.1 e.2)
      (baseValues (rttMillis (pollDevice task world).1) (pollDevice task world).2.1) }

/-- A poll writes one point, with the three poll fields, and publishes one message on
`nms.metrics`, the JSON of `pollMetric`, whatever the write and the publish end with. -/
theorem processTask_writes_and_publishes (task : PollTask) (world : PollWorld)
    (order : List (String × GoValue)) :
    ((processTask task world order).filterMap WorkerEvent.point?).map Point.fields =
        [pointFields (rttMillis (pollDevice task world).1) (pollDevice task world).2.1
          world.duration] ∧
      (processTask task world order).filterMap WorkerEvent.published? =
        [("nms.metrics", marshalPayload (pollMetric task world order))] := by
  unfold processTask pollMetric
  cases world.writeErr <;> cases world.publishErr <;>
    simp [List.filterMap_cons, List.filterMap_append, WorkerEvent.point?, WorkerEvent.published?]

theorem find?_pointFields (rttMs : GoFloat) (success : Bool) (duration : BitVec 64) (k : String) :
    (pointFields rttMs success duration).find? k =
      if k = "rtt_ms" then some (.float64 rttMs) else if k = "success" then some (.bool success)
      else if k = "poll_duration_ms" then some (.float64 (durationMillis duration)) else none := by
  simp only [pointFields, GoMap.find?, GoMap.lookup, @eq_comm _ "rtt_ms" k,
    @eq_comm _ "success" k, @eq_comm _ "poll_duration_ms" k]

/-- The metric's values: the adapter's metrics, and `rtt_ms` and `success` under any other key,
whichever order `range` takes. -/
theorem find?_pollMetric (task : PollTask) (world : PollWorld) (order : List (String × GoValue))
    (hperm : order.Perm (pollDevice task world).2.2.entries) (k : String) :
    (pollMetric task world order).values.find? k =
      ((pollDevice task world).2.2.find? k).orElse fun _ =>
        if k = "rtt_ms" then some (.float64 (rttMillis (pollDevice task world).1))
        else if k = "success" then some (.bool (pollDevice task world).2.1) else none := by
  have hnodup := (hperm.map Prod.fst).nodup_iff.mpr (pollDevice task world).2.2.nodup
  rw [pollMetric, GoMap.find?_foldl_insert _ hnodup, GoMap.lookup_perm hperm hnodup]
  simp only [baseValues, GoMap.find?, GoMap.lookup, @eq_comm _ "rtt_ms" k, @eq_comm _ "success" k]

/-- The point a poll writes has exactly the three poll fields; the metric it publishes has the
adapter's metrics, and `rtt_ms` and `success` under any other key, whichever order `range` takes.
The two maps share `rtt_ms` and `success` only: `poll_duration_ms` is never among the metric's
values unless the adapter returned it, and no adapter metric is among the point's fields. -/
theorem processTask_point_and_metric (task : PollTask) (world : PollWorld)
    (order : List (String × GoValue)) (hperm : order.Perm (pollDevice task world).2.2.entries) :
    ∃ fields metric,
      ((processTask task world order).filterMap WorkerEvent.point?).map Point.fields = [fields] ∧
      (processTask task world order).filterMap WorkerEvent.published? =
        [("nms.metrics", marshalPayload metric)] ∧
      (∀ k, fields.find? k =
        if k = "rtt_ms" then some (.float64 (rttMillis (pollDevice task world).1))
        else if k = "success" then some (.bool (pollDevice task world).2.1)
        else if k = "poll_duration_ms" then some (.float64 (durationMillis world.duration))
        else none) ∧
      ∀ k, metric.values.find? k = ((pollDevice task world).2.2.find? k).orElse fun _ =>
        if k = "rtt_ms" then some (.float64 (rttMillis (pollDevice task world).1))
        else if k = "success" then some (.bool (pollDevice task world).2.1) else none :=
  ⟨_, _, (processTask_writes_and_publishes task world order).1,
    (processTask_writes_and_publishes task world order).2, find?_pointFields _ _ _,
    find?_pollMetric task world order hperm⟩

/-- A ping task to a device answering in 2 ms, polled in 3 ms, with no write or publish error. -/
def pingTask : PollTask := ⟨"dev-1", "10.0.0.1", DeviceTypeRouter, ProtocolSNMP⟩

def pingWorld : PollWorld := ⟨none, some 2000000, 3000000, none, none⟩

theorem processTask_point_and_metric_pingTask :
    List.Perm [] (pollDevice pingTask pingWorld).2.2.entries ∧
    ∃ fields metric,
      ((processTask pingTask pingWorld []).filterMap WorkerEvent.point?).map Point.fields = [fields] ∧
      (processTask pingTask pingWorld []).filterMap WorkerEvent.published? =
        [("nms.metrics", marshalPayload metric)] ∧
      (∀ k, fields.find? k =
        if k = "rtt_ms" then some (.float64 (rttMillis (pollDevice pingTask pingWorld).1))
        else if k = "success" then some (.bool (pollDevice pingTask pingWorld).2.1)
        else if k = "poll_duration_ms" then some (.float64 (durationMillis pingWorld.duration))
        else none) ∧
      ∀ k, metric.values.find? k = ((pollDevice pingTask pingWorld).2.2.find? k).orElse fun _ =>
        if k = "rtt_ms" then some (.float64 (rttMillis (pollDevice pingTask pingWorld).1))
        else if k = "success" then some (.bool (pollDevice pingTask pingWorld).2.1) else none :=
  ⟨List.Perm.nil, processTask_point_and_metric pingTask pingWorld [] List.Perm.nil⟩

/-- On the ping task the point has a `poll_duration_ms` field and the metric has no such value. -/
theorem processTask_pingTask_poll_duration :
    ∃ fields metric,
      ((processTask pingTask pingWorld []).filterMap WorkerEvent.point?).map Point.fields = [fields] ∧
      (processTask pingTask pingWorld []).filterMap WorkerEvent.published? =
        [("nms.metrics", marshalPayload metric)] ∧
      fields.find? "poll_duration_ms" = some (.float64 (durationMillis 3000000)) ∧
      metric.values.find? "poll_duration_ms" = none :=
  ⟨_, _, (processTask_writes_and_publishes pingTask pingWorld []).1,
    (processTask_writes_and_publishes pingTask pingWorld []).2,
    by rw [find?_pointFields]; rfl, by rw [find?_pollMetric pingTask pingWorld [] List.Perm.nil]; rfl⟩

end GoNms
