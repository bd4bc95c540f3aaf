import GoNms.Worker.Worker
import GoNms.Alert.Engine

set_option autoImplicit false

/-! # From a poll to its alerts

A poll publishes one message on `nms.metrics`, and the alert engine's handler decodes it and
evaluates `NewEngine`'s two rules. When every value of the adapter's map has a JSON form, the
message carries `rtt_ms` and `success` intact, and the engine sends High Latency exactly when
`rtt_ms > 100` and Device Down exactly when the poll failed (`processTask_alerts`).

The worker drops the error of `json.Marshal`. A Mikrotik reply whose CPU load reads as NaN or
infinite (`cpu-load: nan`) makes marshalling fail: the worker publishes an empty payload, the
engine fails to decode it, and no rule is evaluated, whatever the RTT (`processTask_alerts`; on
a successful 150 ms poll, `processTask_nanCpuTask_no_alert`). -/

namespace GoNms

open GoNms.Go

/-! ## The keys of the poll's maps -/

theorem find?_resourceMetrics_of_not_mem (res : GoMap String String) {k : String}
    (hk : k ∉ ["uptime_str", "cpu_load", "free_memory", "total_memory"]) :
    (resourceMetrics res).find? k = none := by
  simp only [List.mem_cons, List.mem_singleton, List.not_mem_nil, or_false, not_or] at hk
  simp only [resourceMetrics, find?_copyField, hk.1, hk.2.1, hk.2.2.1, hk.2.2.2, if_false,
    GoMap.find?_empty]

theorem find?_fetchSystemResources_of_not_mem (reply : Option (List (GoMap String String)))
    {k : String} (hk : k ∉ ["uptime_str", "cpu_load", "free_memory", "total_memory"]) :
    (fetchSystemResources reply).1.find? k = none := by
  unfold fetchSystemResources
  split
  · exact find?_resourceMetrics_of_not_mem _ hk
  · rfl

/-- The adapter never writes `rtt_ms` or `success`. -/
theorem find?_pollDevice_of_not_mem (task : PollTask) (world : PollWorld) {k : String}
    (hk : k ∉ ["uptime_str", "cpu_load", "free_memory", "total_memory"]) :
    (pollDevice task world).2.2.find? k = none := by
  unfold pollDevice
  split_ifs
  · exact find?_fetchSystemResources_of_not_mem world.resources hk
  · rfl

theorem isFinite_rttMillis (rtt : BitVec 64) : (rttMillis rtt).isFinite = true :=
  GoFloat.isFinite_ofInt_div (toInt_mem_range _) (by norm_num)

/-- The adapter's map has only values with a JSON form unless the CPU load of the reply reads as
NaN or infinite. -/
theorem encodable_pollDevice (task : PollTask) (world : PollWorld)
    (hcpu : ∀ res rest, world.resources = some (res :: rest) →
      ∀ val, res.find? "cpu-load" = some val → (parsePercentage val).isFinite = true) :
    ∀ v ∈ (pollDevice task world).2.2.values, v.Encodable := by
  have hnil : ∀ v ∈ (GoMap.empty : GoMap String GoValue).values, v.Encodable :=
    fun _ hv => absurd hv (List.not_mem_nil _)
  have hfetch : ∀ v ∈ (fetchSystemResources world.resources).1.values, v.Encodable := by
    unfold fetchSystemResources
    split
    · next res rest hres => exact encodable_resourceMetrics (hcpu res rest hres)
    · exact hnil
  unfold pollDevice
  split_ifs
  · exact hfetch
  · exact hnil

/-- The metric a poll builds has only values with a JSON form when the adapter's map has. -/
theorem encodable_pollMetric {task : PollTask} {world : PollWorld} {order : List (String × GoValue)}
    (hperm : order.Perm (pollDevice task world).2.2.entries)
    (henc : ∀ v ∈ (pollDevice task world).2.2.values, v.Encodable) :
    ∀ v ∈ (pollMetric task world order).values.values, v.Encodable := by
  intro v hv
  obtain ⟨k, hk⟩ := (GoMap.mem_values_iff _ v).mp hv
  rw [find?_pollMetric task world order hperm] at hk
  cases hd : (pollDevice task world).2.2.find? k with
  | some w =>
      rw [hd] at hk
      cases hk
      exact henc v ((GoMap.mem_values_iff _ v).mpr ⟨k, hd⟩)
  | none =>
      rw [hd] at hk
      split_ifs at hk <;> cases hk
      · exact isFinite_rttMillis _
      · trivial

/-! ## The alerts of a poll -/

/-- The rules of `NewEngine` that fire on a decoded metric, read from its two values. -/
theorem filter_fires_newEngineRules {m : Metric} {rttMs : GoFloat} {success : Bool}
    (hrtt : m.values.find? "rtt_ms" = some (.float64 rttMs))
    (hsuccess : m.values.find? "success" = some (.bool success)) :
    (newEngineRules.filter fun rule => decide (Fires m rule)).map (·.description) =
      (if GoFloat.lt 100 rttMs then ["High Latency (>100ms)"] else []) ++
        (if success then [] else ["Device Down"]) := by
  have h10 : GoFloat.eq 1 0 = false := GoFloat.eq_ofInt_ofInt (a := 1) (b := 0) (by norm_num)
    (by norm_num)
  have h00 : GoFloat.eq 0 0 = true := GoFloat.eq_ofInt_ofInt (a := 0) (b := 0) (by norm_num)
    (by norm_num)
  cases hlt : GoFloat.lt 100 rttMs <;> cases success <;>
    simp [newEngineRules, fires_iff, hrtt, hsuccess, toFloat, triggers, hlt, h10, h00]

/-- One value without a JSON form in the adapter's map makes `json.Marshal` fail; the worker then
publishes the empty payload, and the engine, failing to decode it, sends nothing. -/
theorem sent_of_not_encodable (task : PollTask) (world : PollWorld) (order : List (String × GoValue))
    (hperm : order.Perm (pollDevice task world).2.2.entries)
    (hv : ∃ v ∈ (pollDevice task world).2.2.values, ¬ v.Encodable) :
    (handleMetric newEngineRules (marshalPayload (pollMetric task world order))).filterMap
      EngineEvent.sent? = [] := by
  obtain ⟨v, hv, hne⟩ := hv
  obtain ⟨k, hk⟩ := (GoMap.mem_values_iff _ v).mp hv
  have hm := find?_pollMetric task world order hperm k
  rw [hk] at hm
  obtain ⟨e, he⟩ := Metric.marshal_of_not_encodable (v := v) (hm.trans rfl) hne
  rw [marshalPayload, he]
  rfl

/-- A poll publishes one message. When the adapter's map has only values with a JSON form, the
engine sends for it High Latency exactly when `rtt_ms > 100` and Device Down exactly when the poll
failed, each once, and nothing else; when a value has none, the engine sends nothing. -/
theorem processTask_alerts (task : PollTask) (world : PollWorld) (order : List (String × GoValue))
    (hperm : order.Perm (pollDevice task world).2.2.entries) :
    ∃ payload, (processTask task world order).filterMap WorkerEvent.published? =
        [("nms.metrics", payload)] ∧
      ((∀ v ∈ (pollDevice task world).2.2.values, v.Encodable) →
        ((handleMetric newEngineRules payload).filterMap EngineEvent.sent?).map (·.2.1) =
          (if GoFloat.lt 100 (rttMillis (pollDevice task world).1) then
            ["NMS Alert: High Latency (>100ms)"] else []) ++
          (if (pollDevice task world).2.1 then [] else ["NMS Alert: Device Down"])) ∧
      ((∃ v ∈ (pollDevice task world).2.2.values, ¬ v.Encodable) →
        (handleMetric newEngineRules payload).filterMap EngineEvent.sent? = []) := by
  refine ⟨_, (processTask_writes_and_publishes task world order).2, fun henc => ?_,
    sent_of_not_encodable task world order hperm⟩
  obtain ⟨doc, m', hmar, hun, -, -, -, hfind⟩ :=
    Metric.unmarshal_marshal (encodable_pollMetric hperm henc)
  have hpayload : marshalPayload (pollMetric task world order) = .json doc := by
    simp only [marshalPayload, hmar]
  have hvalue : ∀ k, k ∉ ["uptime_str", "cpu_load", "free_memory", "total_memory"] →
      m'.values.find? k = ((if k = "rtt_ms" then some (.float64 (rttMillis (pollDevice task world).1))
        else if k = "success" then some (.bool (pollDevice task world).2.1) else none).map
          GoValue.viaJson) := fun k hk => by
    rw [hfind, find?_pollMetric task world order hperm, find?_pollDevice_of_not_mem task world hk]
    rfl
  have hsubject : (fun e : String × String × String => e.2.1) ∘ sendCall m' =
      (fun d => "NMS Alert: " ++ d) ∘ Rule.description := rfl
  rw [hpayload, handleMetric, hun, evaluate_sends, List.map_map, hsubject, ← List.map_map,
    filter_fires_newEngineRules (hvalue "rtt_ms" (by decide)) (hvalue "success" (by decide))]
  split_ifs <;> rfl

/-! ## An unencodable CPU load -/

/-- A RouterOS reply whose CPU load is the text `nan`. -/
def nanCpuReply : GoMap String String :=
  ⟨[("cpu-load", "nan")], by simp only [List.map_cons, List.map_nil]; decide⟩

/-- A Mikrotik device that answers the API with `cpu-load: nan` and pings in 150 ms. -/
def nanCpuTask : PollTask := ⟨"mt-1", "10.0.0.7", DeviceTypeRouter, ProtocolMikrotikAPI⟩

def nanCpuWorld : PollWorld := ⟨some [nanCpuReply], some 150000000, 200000000, none, none⟩

theorem rttMillis_nanCpuWorld : rttMillis (pollDevice nanCpuTask nanCpuWorld).1 = GoFloat.ofInt 150 := by
  have hrtt : (pollDevice nanCpuTask nanCpuWorld).1 = 150000000 := rfl
  have hus : (BitVec.sdiv (150000000 : BitVec 64) 1000).toInt = 150000 := by decide
  rw [hrtt, rttMillis, hus, show (1000 : GoFloat) = GoFloat.ofInt 1000 from rfl,
    GoFloat.ofInt_div_ofInt_of_dvd (by norm_num) (by norm_num) (by norm_num) (by norm_num)]
  rfl

/-- The poll publishes one message, it succeeded and its `rtt_ms` is above 100, and yet the engine
sends nothing: `Sscanf` reads the CPU load as NaN, which has no JSON form. -/
theorem processTask_nanCpuTask_no_alert :
    (pollDevice nanCpuTask nanCpuWorld).2.2.entries.Perm (pollDevice nanCpuTask nanCpuWorld).2.2.entries ∧
    ∃ payload, (processTask nanCpuTask nanCpuWorld
        (pollDevice nanCpuTask nanCpuWorld).2.2.entries).filterMap WorkerEvent.published? =
        [("nms.metrics", payload)] ∧
      GoFloat.lt 100 (rttMillis (pollDevice nanCpuTask nanCpuWorld).1) = true ∧
      (pollDevice nanCpuTask nanCpuWorld).2.1 = true ∧
      (handleMetric newEngineRules payload).filterMap EngineEvent.sent? = [] := by
  have hadapter : (pollDevice nanCpuTask nanCpuWorld).2.2.find? "cpu_load" =
      some (.float64 .nan) := by
    simp only [show (pollDevice nanCpuTask nanCpuWorld).2.2 = resourceMetrics nanCpuReply from rfl,
      resourceMetrics, find?_copyField]
    rfl
  obtain ⟨payload, hpub, -, hnone⟩ := processTask_alerts nanCpuTask nanCpuWorld _ (List.Perm.refl _)
  refine ⟨List.Perm.refl _, payload, hpub, ?_, rfl,
    hnone ⟨_, (GoMap.mem_values_iff _ _).mpr ⟨"cpu_load", hadapter⟩, by decide⟩⟩
  rw [rttMillis_nanCpuWorld, show (100 : GoFloat) = GoFloat.ofInt 100 from rfl,
    GoFloat.lt_ofInt_ofInt (by norm_num) (by norm_num)]
  rfl

end GoNms
