import GoNms.Common.Model
import GoNms.Device.Service

set_option autoImplicit false

/-! # The poll scheduler

On every tick `Scheduler.schedulePolls` lists the devices through the device service, asking for
page 1 with page size 1000, and publishes one `PollTask` on `nms.poll.tasks` for every enabled
device it was given. Errors are logged, never returned: a listing error ends the tick, and a
failed publish only adds a log line. A tick is observed through the sequence of its publishes and
log lines; a payload is the task it is the JSON encoding of.

The page size 1000 is above the service's bound of 100, so `ListDevices` serves a page of 20:
whatever the registry holds, only its first 20 rows are ever scheduled
(`schedulePolls_publishes_first_page`). -/

namespace GoNms

/-- What a tick does that can be observed: a message published on a subject, or a log line. -/
inductive SchedulerEvent where
  | publish (subject : String) (task : PollTask)
  | log (line : String)
  deriving DecidableEq, Repr

/-- The publish an event is, if it is one. -/
def SchedulerEvent.published? : SchedulerEvent → Option (String × PollTask)
  | .publish subject task => some (subject, task)
  | .log _ => none

/-- The NATS connection as the scheduler uses it: the error its `n`-th `Publish` ends with. -/
def NatsConn : Type := Nat → Option String

/-- The task the scheduler builds for a device. -/
def pollTaskOf (d : Device) : PollTask :=
  { deviceID := d.id, ipAddress := d.ipAddress, deviceType := d.deviceType, protocol := d.protocol }

/-- The loop over the listed devices; `n` counts the `Publish` calls made so far. -/
def publishPollTasks (conn : NatsConn) : Nat → List Device → List SchedulerEvent
  | _, [] => []
  | n, d :: devices =>
      if !d.enabled then publishPollTasks conn n devices
      else
        .publish "nms.poll.tasks" (pollTaskOf d) ::
          match conn n with
          | some err => .log ("Error publishing task for device " ++ d.name ++ ": " ++ err) ::
              publishPollTasks conn (n + 1) devices
          | none => publishPollTasks conn (n + 1) devices

/-- `Scheduler.schedulePolls`: one tick. -/
def schedulePolls (repo : DeviceRepository) (conn : NatsConn) : List SchedulerEvent :=
  match listDevices repo 1 1000 with
  | .error err => [.log ("Error fetching devices: " ++ err)]
  | .ok (devices, _) => publishPollTasks conn 0 devices

/-! ## The loop -/

/-- The loop publishes the task of every enabled device it is given, in order, and nothing else,
whichever publishes fail. -/
theorem published_publishPollTasks (conn : NatsConn) (n : Nat) (devices : List Device) :
    (publishPollTasks conn n devices).filterMap SchedulerEvent.published? =
      (devices.filter (·.enabled)).map fun d => ("nms.poll.tasks", pollTaskOf d) := by
  induction devices generalizing n with
  | nil => rfl
  | cons d devices ih =>
      cases hd : d.enabled
      · simp only [publishPollTasks, hd, Bool.not_false, if_true, ih, List.filter_cons_of_neg,
          Bool.false_eq_true, not_false_eq_true]
      · simp only [publishPollTasks, hd, Bool.not_true, Bool.false_eq_true, if_false,
          List.filter_cons_of_pos, List.map_cons]
        cases conn n <;> simp only [List.filterMap_cons, SchedulerEvent.published?, ih]

/-! ## A tick -/

/-- The scheduler's request is served as the first page of 20. -/
theorem listDevices_one_thousand {repo : DeviceRepository} (hl : repo.listErr = none)
    (hc : repo.countErr = none) :
    listDevices repo 1 1000 = .ok (repo.rows.take 20, BitVec.ofNat 64 repo.rows.length) := by
  rw [listDevices_of_pageSize_out_of_range repo 1 (Or.inr (by decide)),
    listDevices_window hl hc (by decide) (by decide) (by decide)]
  rfl

/-- A failed listing ends the tick with one log line and no publish. -/
theorem schedulePolls_of_listDevices_err {repo : DeviceRepository} {err : String}
    (h : listDevices repo 1 1000 = .error err) (conn : NatsConn) :
    schedulePolls repo conn = [.log ("Error fetching devices: " ++ err)] := by
  simp only [schedulePolls, h]

/-- With the listing succeeding, a tick publishes on `nms.poll.tasks` the task of each enabled
device among the first 20 rows of the registry, once and in order, and nothing else, whichever
publishes fail. -/
theorem schedulePolls_publishes_first_page {repo : DeviceRepository} (hl : repo.listErr = none)
    (hc : repo.countErr = none) (conn : NatsConn) :
    (schedulePolls repo conn).filterMap SchedulerEvent.published? =
      ((repo.rows.take 20).filter (·.enabled)).map fun d => ("nms.poll.tasks", pollTaskOf d) := by
  simp only [schedulePolls, listDevices_one_thousand hl hc, published_publishPollTasks]

/-- The `i`-th device of a registry of enabled OLTs. -/
def enabledOLT (i : Nat) : Device :=
  { id := "olt-" ++ toString i, name := "OLT " ++ toString i, ipAddress := "10.0.1." ++ toString i,
    deviceType := DeviceTypeOLT, protocol := ProtocolSNMP, enabled := true, credentials := none }

/-- A registry of 21 enabled OLTs whose queries succeed. -/
def twentyOneOLTs : DeviceRepository :=
  { rows := (List.range 21).map enabledOLT, listErr := none, countErr := none }

theorem schedulePolls_publishes_first_page_twentyOneOLTs :
    (twentyOneOLTs.listErr = none ∧ twentyOneOLTs.countErr = none) ∧
    (schedulePolls twentyOneOLTs fun _ => none).filterMap SchedulerEvent.published? =
      ((twentyOneOLTs.rows.take 20).filter (·.enabled)).map
        fun d => ("nms.poll.tasks", pollTaskOf d) :=
  ⟨⟨rfl, rfl⟩, schedulePolls_publishes_first_page rfl rfl _⟩

/-- Of 21 enabled devices, the last is never scheduled, whichever publishes fail. -/
theorem schedulePolls_twentyOneOLTs_skips_last (conn : NatsConn) :
    enabledOLT 20 ∈ twentyOneOLTs.rows ∧ (enabledOLT 20).enabled = true ∧
      ∀ p ∈ (schedulePolls twentyOneOLTs conn).filterMap SchedulerEvent.published?,
        p.2.deviceID ≠ (enabledOLT 20).id := by
  refine ⟨List.mem_map_of_mem _ (List.mem_range.mpr (by norm_num)), rfl, ?_⟩
  simp only [schedulePolls, @listDevices_one_thousand twentyOneOLTs rfl rfl,
    published_publishPollTasks]
  decide

end GoNms
