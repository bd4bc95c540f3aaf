import GoNms.Go.Json

set_option autoImplicit false

/-! # Messages on the bus

The records of `internal/common/model` that the scheduler, the worker and the alert engine
exchange over NATS. Their `Timestamp`, `time.Now()` where they are built, is left out, and so are
a `Metric`'s `Tags`, which no modelled code sets or reads (`omitempty` leaves them out of its JSON).

A `Metric` travels as JSON: `Metric.marshal` is `json.Marshal`, which fails on a value without a
JSON form, and `Payload.unmarshal` is the alert engine's `json.Unmarshal`, which fails on the empty
payload the worker publishes when marshalling failed. -/

namespace GoNms

open GoNms.Go

/-- `PollTask`: the device to poll, as the scheduler publishes it on `nms.poll.tasks`. -/
structure PollTask where
  deviceID : String
  ipAddress : String
  deviceType : String
  protocol : String
  deriving DecidableEq, Repr

/-- `Metric`: a data point about a device, with its values by name. -/
structure Metric where
  deviceID : String
  deviceName : String
  ipAddress : String
  values : GoMap String GoValue

/-- A `Metric`'s JSON object: its scalar members, and the members of its `values` object. -/
structure MetricJson where
  deviceID : String
  deviceName : String
  ipAddress : String
  values : List (String × JsonValue)
  deriving DecidableEq

/-- The bytes of a message: a JSON document, or nothing (what a failed `json.Marshal` returns). -/
inductive Payload where
  | empty
  | json (doc : MetricJson)
  deriving DecidableEq

/-- `json.Marshal(metric)`. -/
def Metric.marshal (m : Metric) : Except String MetricJson :=
  (fun values => ⟨m.deviceID, m.deviceName, m.ipAddress, values⟩) <$> marshalMap m.values

/-- `json.Unmarshal(data, &metric)` on a fresh `Metric`. -/
def Payload.unmarshal : Payload → Except String Metric
  | .empty => .error "unexpected end of JSON input"
  | .json doc =>
      (fun values => ⟨doc.deviceID, doc.deviceName, doc.ipAddress, values⟩) <$> unmarshalMap doc.values

/-- A metric whose values all have a JSON form reads back with the same fields and, key for key,
the same values up to the round trip's types. -/
theorem Metric.unmarshal_marshal {m : Metric} (hm : ∀ v ∈ m.values.values, v.Encodable) :
    ∃ doc m', m.marshal = .ok doc ∧ (Payload.json doc).unmarshal = .ok m' ∧
      m'.deviceID = m.deviceID ∧ m'.deviceName = m.deviceName ∧ m'.ipAddress = m.ipAddress ∧
      ∀ k, m'.values.find? k = (m.values.find? k).map GoValue.viaJson := by
  obtain ⟨members, values, hmar, hun, hfind⟩ := unmarshalMap_marshalMap hm
  exact ⟨⟨m.deviceID, m.deviceName, m.ipAddress, members⟩,
    ⟨m.deviceID, m.deviceName, m.ipAddress, values⟩,
    by simp only [Metric.marshal, hmar]; rfl, by simp only [Payload.unmarshal, hun]; rfl,
    rfl, rfl, rfl, hfind⟩

/-- A metric with a value without a JSON form does not marshal. -/
theorem Metric.marshal_of_not_encodable {m : Metric} {k : String} {v : GoValue}
    (hk : m.values.find? k = some v) (hv : ¬ v.Encodable) : ∃ e, m.marshal = .error e := by
  obtain ⟨e, he⟩ := marshalMap_of_not_encodable hk hv
  exact ⟨e, by simp only [Metric.marshal, he]; rfl⟩

end GoNms
