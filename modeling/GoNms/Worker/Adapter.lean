import GoNms.Go.FloatText
import GoNms.Go.Json

set_option autoImplicit false

/-! # The poll adapters

`MikrotikAdapter.FetchSystemResources` runs `/system/resource/print` on a RouterOS device and
turns the first reply sentence into the adapter's metrics map: the uptime text, the CPU load
through `parsePercentage` (`Sscanf` with `%f`, after dropping a `%`), and the two memory counters
through `parseBytes` (`Sscanf` with `%d`). Both parsers drop their scan error and return the
zero value. `PingAdapter.Ping` runs one `ping` and reports the time it took.

The network is what the model takes as given: the reply sentences, or `none` when dialling or the
command failed, and the outcome of `ping`. -/

namespace GoNms

open GoNms.Go

/-- `parsePercentage`: `Sscanf(strings.TrimSuffix(s, "%"), "%f", &f)`, whose error is dropped. -/
def parsePercentage (s : String) : GoFloat :=
  match sscanFloat (trimSuffix s "%") with
  | .ok f => f
  | .error _ => 0

/-- `parseBytes`: `Sscanf(s, "%d", &i)` into an `int64`, whose error is dropped. -/
def parseBytes (s : String) : BitVec 64 :=
  match sscanInt s with
  | .ok i => BitVec.ofInt 64 i
  | .error _ => 0

/-- `if val, ok := res[field]; ok { metrics[name] = conv(val) }`: one field of the reply copied
into the metrics map under the adapter's name. -/
def copyField {α : Type} (res : GoMap String String) (field name : String) (conv : String → α)
    (metrics : GoMap String α) : GoMap String α :=
  match res.find? field with
  | some val => metrics.insert name (conv val)
  | none => metrics

/-- The adapter's metrics map from the first sentence of the reply. -/
def resourceMetrics (res : GoMap String String) : GoMap String GoValue :=
  let metrics := copyField res "uptime" "uptime_str" GoValue.string GoMap.empty
  let metrics := copyField res "cpu-load" "cpu_load" (fun val => .float64 (parsePercentage val)) metrics
  let metrics := copyField res "free-memory" "free_memory" (fun val => .int64 (parseBytes val)) metrics
  copyField res "total-memory" "total_memory" (fun val => .int64 (parseBytes val)) metrics

/-- `MikrotikAdapter.FetchSystemResources`, on the device's reply to `/system/resource/print`
(`none` when dialling or running the command failed). A failure returns a nil map, which reads
and ranges as the empty one. -/
def fetchSystemResources (reply : Option (List (GoMap String String))) :
    GoMap String GoValue × Bool :=
  match reply with
  | some (res :: _) => (resourceMetrics res, true)
  | _ => (GoMap.empty, false)

/-- `PingAdapter.Ping`: the elapsed time of a successful `ping`, or `(0, false)`. -/
def ping (outcome : Option (BitVec 64)) : BitVec 64 × Bool :=
  match outcome with
  | some elapsed => (elapsed, true)
  | none => (0, false)

/-! ## The metrics map -/

theorem find?_copyField {α : Type} (res : GoMap String String) (field name : String)
    (conv : String → α) (metrics : GoMap String α) (k : String) :
    (copyField res field name conv metrics).find? k =
      if k = name then ((res.find? field).map conv).orElse fun _ => metrics.find? k
      else metrics.find? k := by
  unfold copyField
  cases res.find? field <;> simp [GoMap.find?_insert]

/-- Copying a field whose conversion has a JSON form keeps every value of the map encodable. -/
theorem encodable_copyField {res : GoMap String String} {field name : String}
    {conv : String → GoValue} {metrics : GoMap String GoValue}
    (hm : ∀ v ∈ metrics.values, v.Encodable)
    (hconv : ∀ val, res.find? field = some val → (conv val).Encodable) :
    ∀ v ∈ (copyField res field name conv metrics).values, v.Encodable := by
  intro v hv
  obtain ⟨k, hk⟩ := (GoMap.mem_values_iff _ v).mp hv
  rw [find?_copyField] at hk
  split_ifs at hk
  · cases hf : res.find? field with
    | some val =>
        rw [hf] at hk
        cases hk
        exact hconv val hf
    | none =>
        rw [hf] at hk
        exact hm v ((GoMap.mem_values_iff _ v).mpr ⟨k, hk⟩)
  · exact hm v ((GoMap.mem_values_iff _ v).mpr ⟨k, hk⟩)

/-- The only `float64` the adapter writes is the CPU load: when that is finite, or missing, every
value of the map has a JSON form. -/
theorem encodable_resourceMetrics {res : GoMap String String}
    (hcpu : ∀ val, res.find? "cpu-load" = some val → (parsePercentage val).isFinite = true) :
    ∀ v ∈ (resourceMetrics res).values, v.Encodable :=
  encodable_copyField (encodable_copyField (encodable_copyField (encodable_copyField
    (fun v hv => by simp [GoMap.values, GoMap.empty] at hv) fun _ _ => trivial) hcpu)
    fun _ _ => trivial) fun _ _ => trivial

end GoNms
