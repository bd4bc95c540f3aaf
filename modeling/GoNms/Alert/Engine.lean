import GoNms.Common.Model
import GoNms.Go.FloatText

set_option autoImplicit false

/-! # The alert engine

`Engine.evaluate` checks a metric against the rule list in order: a rule applies when its device
scope is empty or the metric's device, the metric has a value under the rule's metric name, that
value converts by `toFloat` (a `float64` as is, an `int` converted, a `bool` as 1 or 0), and it
stands in the rule's relation to the threshold. An applying rule logs its alert and calls the
notifier's `Send` once. The subscription handler of `Engine.Start` decodes the message first and
evaluates nothing when decoding fails.

`NewEngine` loads two rules: `rtt_ms > 100` (High Latency) and `success = 0` (Device Down). -/

namespace GoNms

open GoNms.Go

/-- `alert.Rule` (its `ID` names the rule and is read by nothing). -/
structure Rule where
  id : String
  deviceID : String
  metricName : String
  operator : String
  threshold : GoFloat
  description : String
  severity : String

/-- The rules `NewEngine` loads. -/
def newEngineRules : List Rule :=
  [{ id := "rule-1", deviceID := "", metricName := "rtt_ms", operator := ">", threshold := 100,
     description := "High Latency (>100ms)", severity := "warning" },
   { id := "rule-2", deviceID := "", metricName := "success", operator := "=", threshold := 0,
     description := "Device Down", severity := "critical" }]

/-- `toFloat`: the type switch of the engine. -/
def toFloat : GoValue → Option GoFloat
  | .float64 v => some v
  | .int v => some (GoFloat.ofInt v.toInt)
  | .bool b => some (if b then 1 else 0)
  | _ => none

/-- The operator `switch` of `evaluate`: an unknown operator never triggers. -/
def triggers (operator : String) (floatVal threshold : GoFloat) : Bool :=
  if operator = ">" then GoFloat.lt threshold floatVal
  else if operator = "<" then GoFloat.lt floatVal threshold
  else if operator = "=" then GoFloat.eq floatVal threshold
  else if operator = ">=" then GoFloat.le threshold floatVal
  else if operator = "<=" then GoFloat.le floatVal threshold
  else false

/-- What the engine does that can be observed: a log line, or a call of the notifier's `Send`. -/
inductive EngineEvent where
  | log (line : String)
  | send (recipient subject body : String)
  deriving DecidableEq

/-- The alert text of a triggered rule. -/
def alertMessage (rule : Rule) (metric : Metric) (floatVal : GoFloat) : String :=
  "ALERT [" ++ rule.severity ++ "]: Device " ++ metric.deviceName ++ " (" ++ metric.ipAddress ++
    ") - " ++ rule.description ++ " (Value: " ++ sprintfF2 floatVal ++ ")"

/-- One iteration of `evaluate`'s loop. -/
def evaluateRule (metric : Metric) (rule : Rule) : List EngineEvent :=
  if rule.deviceID ≠ "" ∧ rule.deviceID ≠ metric.deviceID then [] else
  match metric.values.find? rule.metricName with
  | none => []
  | some val =>
      match toFloat val with
      | none => []
      | some floatVal =>
          if triggers rule.operator floatVal rule.threshold then
            let alertMsg := alertMessage rule metric floatVal
            [.log ("⚡ " ++ alertMsg), .send "admin@example.com" ("NMS Alert: " ++ rule.description) alertMsg]
          else []

/-- `Engine.evaluate`. -/
def evaluate (rules : List Rule) (metric : Metric) : List EngineEvent :=
  rules.flatMap (evaluateRule metric)

/-- The handler `Engine.Start` subscribes to `nms.metrics`. -/
def handleMetric (rules : List Rule) (payload : Payload) : List EngineEvent :=
  match payload.unmarshal with
  | .error err => [.log ("Error unmarshalling metric: " ++ err)]
  | .ok metric => evaluate rules metric

/-- The arguments of a `Send` call, if the event is one. -/
def EngineEvent.sent? : EngineEvent → Option (String × String × String)
  | .send recipient subject body => some (recipient, subject, body)
  | .log _ => none

/-! ## Which rules fire -/

/-- A value as the rules read it: a `float64` as is, an `int` converted, a `bool` as 1 or 0. -/
def Accepted (v : GoValue) (f : GoFloat) : Prop :=
  v = .float64 f ∨ (∃ i, v = .int i ∧ f = GoFloat.ofInt i.toInt) ∨ (v = .bool true ∧ f = 1) ∨
    (v = .bool false ∧ f = 0)

/-- The relations the five operators name, between a value and a threshold, on `float64`s. -/
def Holds (operator : String) (f t : GoFloat) : Prop :=
  (operator = ">" ∧ GoFloat.lt t f = true) ∨ (operator = "<" ∧ GoFloat.lt f t = true) ∨
    (operator = "=" ∧ GoFloat.eq f t = true) ∨ (operator = ">=" ∧ GoFloat.le t f = true) ∨
    (operator = "<=" ∧ GoFloat.le f t = true)

/-- A rule fires on a metric: it is global or scoped to the metric's device, and the metric has a
value under its name that is accepted and stands in the rule's relation to its threshold. -/
def Fires (metric : Metric) (rule : Rule) : Prop :=
  (rule.deviceID = "" ∨ rule.deviceID = metric.deviceID) ∧
    ∃ v f, metric.values.find? rule.metricName = some v ∧ Accepted v f ∧
      Holds rule.operator f rule.threshold

theorem toFloat_eq_some_iff (v : GoValue) (f : GoFloat) : toFloat v = some f ↔ Accepted v f := by
  cases v with
  | float64 x => simp [toFloat, Accepted, eq_comm]
  | int i => simp [toFloat, Accepted, eq_comm]
  | bool b => cases b <;> simp [toFloat, Accepted, eq_comm]
  | int64 i => simp [toFloat, Accepted]
  | string s => simp [toFloat, Accepted]

theorem triggers_iff (operator : String) (f t : GoFloat) :
    triggers operator f t = true ↔ Holds operator f t := by
  unfold triggers Holds
  split_ifs <;> subst_vars <;> simp_all

theorem fires_iff (metric : Metric) (rule : Rule) :
    Fires metric rule ↔ (rule.deviceID = "" ∨ rule.deviceID = metric.deviceID) ∧
      ((metric.values.find? rule.metricName).bind toFloat).any
        (fun f => triggers rule.operator f rule.threshold) = true := by
  unfold Fires
  refine and_congr_right fun _ => ?_
  cases metric.values.find? rule.metricName with
  | none => simp
  | some v =>
      cases hv : toFloat v with
      | none => simp [← toFloat_eq_some_iff, hv]
      | some f => simp [← toFloat_eq_some_iff, hv, triggers_iff]

instance (metric : Metric) : DecidablePred (Fires metric) := fun rule =>
  decidable_of_iff _ (fires_iff metric rule).symm

/-- The `Send` call a firing rule makes. -/
def sendCall (metric : Metric) (rule : Rule) : String × String × String :=
  ("admin@example.com", "NMS Alert: " ++ rule.description,
    alertMessage rule metric (((metric.values.find? rule.metricName).bind toFloat).getD 0))

/-- One rule calls `Send` once when it fires and not at all otherwise. -/
theorem sent_evaluateRule (metric : Metric) (rule : Rule) :
    (evaluateRule metric rule).filterMap EngineEvent.sent? =
      if Fires metric rule then [sendCall metric rule] else [] := by
  rw [if_congr (fires_iff metric rule) rfl rfl]
  unfold evaluateRule sendCall
  by_cases hscope : rule.deviceID ≠ "" ∧ rule.deviceID ≠ metric.deviceID
  · rw [if_pos hscope, if_neg (by tauto)]; rfl
  · rw [if_neg hscope]
    have hscope' : rule.deviceID = "" ∨ rule.deviceID = metric.deviceID := by tauto
    cases metric.values.find? rule.metricName with
    | none => simp
    | some v =>
        cases hf : toFloat v with
        | none => simp [hf]
        | some f =>
            by_cases ht : triggers rule.operator f rule.threshold <;>
              simp [hf, ht, hscope', EngineEvent.sent?]

/-- `evaluate` calls `Send` once for each rule that fires, in rule order, and for no other rule. -/
theorem evaluate_sends (rules : List Rule) (metric : Metric) :
    (evaluate rules metric).filterMap EngineEvent.sent? =
      (rules.filter fun rule => decide (Fires metric rule)).map (sendCall metric) := by
  induction rules with
  | nil => rfl
  | cons rule rules ih =>
      rw [evaluate, List.flatMap_cons, List.filterMap_append, ← evaluate, ih, sent_evaluateRule,
        List.filter_cons]
      split_ifs <;> simp_all

end GoNms
