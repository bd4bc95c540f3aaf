import GoNms.Go.Json
import GoNms.Go.Fmt

set_option autoImplicit false

/-! # Inventory sync and the collection tick

`Handler.SyncInventory` converts the targets of a decoded request into `DeviceTarget`s and hands
them to `TargetStore.ReplaceAll`, which starts a fresh map and files each target under its IP, a
later target replacing an earlier one of the same IP. The response counts the request's targets.
`Scheduler.runCollection` starts one poll for every target `GetAll` returns.

So after a sync the store holds, for each IP of the request, the last target with it, and nothing
of what it held before; the polls of the next tick are one per IP (`syncInventory_getAll`). The
count the response reports is the number of targets sent, which is the number stored exactly when
the request's IPs are distinct. -/

namespace GoNms.Monitoring

open GoNms.Go

/-- `execution.Auth`. `Port` is a Go `int`. -/
structure Auth where
  username : String
  password : String
  port : BitVec 64
  deriving DecidableEq

/-- `execution.Target`. -/
structure Target where
  ip : String
  driver : String
  auth : Auth
  deriving DecidableEq

/-- `SyncRequest`, as `ShouldBindJSON` decodes it. -/
structure SyncRequest where
  targets : List Target

/-- `DeviceTarget`. -/
structure DeviceTarget where
  ip : String
  driver : String
  username : String
  password : String
  port : BitVec 64
  deriving DecidableEq

/-- `TargetStore`, without its lock: the targets by IP. -/
structure TargetStore where
  targets : GoMap String DeviceTarget

/-- `NewTargetStore`. -/
def newTargetStore : TargetStore := ⟨GoMap.empty⟩

/-- `TargetStore.ReplaceAll`: a fresh map, filled in slice order. -/
def TargetStore.replaceAll (_s : TargetStore) (newTargets : List DeviceTarget) : TargetStore :=
  ⟨newTargets.foldl (fun m t => m.insert t.ip t) GoMap.empty⟩

/-- `TargetStore.GetAll`, when `range` visits the map in the order `order`. -/
def TargetStore.getAll (s : TargetStore) (order : GoMap.RangeOrder s.targets) : List DeviceTarget :=
  order.entries.map Prod.snd

/-- A gin response: the status code and the `gin.H` body. -/
structure Response where
  status : ℕ
  body : GoMap String GoValue

/-- The conversion loop of `SyncInventory`. -/
def deviceTargetOf (t : Target) : DeviceTarget :=
  { ip := t.ip, driver := t.driver, username := t.auth.username, password := t.auth.password,
    port := t.auth.port }

/-- `Handler.SyncInventory`, on the outcome of `ShouldBindJSON`: the request or its error. -/
def syncInventory (store : TargetStore) (req : Except String SyncRequest) :
    TargetStore × Response :=
  match req with
  | .error err =>
      (store, ⟨400, ⟨[("error", .string err)], by simp only [List.map_cons, List.map_nil]; decide⟩⟩)
  | .ok req =>
      let targets := req.targets.map deviceTargetOf
      (store.replaceAll targets,
        ⟨200, ⟨[("status", .string "success"), ("count", .int (BitVec.ofNat 64 targets.length))],
          by simp only [List.map_cons, List.map_nil]; decide⟩⟩)

/-- What a collection tick does that can be observed: its log line, and a `PollDevice` started for
a target. -/
inductive CollectionEvent where
  | log (line : String)
  | poll (target : DeviceTarget)

/-- The target of a started poll, if the event is one. -/
def CollectionEvent.polled? : CollectionEvent → Option DeviceTarget
  | .poll target => some target
  | .log _ => none

/-- `Scheduler.runCollection`: one goroutine running `PollDevice` per target of `GetAll`. -/
def runCollection (store : TargetStore) (order : GoMap.RangeOrder store.targets) : List CollectionEvent :=
  let targets := store.getAll order
  .log ("Starting collection for " ++ sprintfD targets.length ++ " devices") :: targets.map .poll

/-! ## The store after a sync -/

/-- An IP reads the last target of the slice with that IP. -/
theorem find?_replaceAll (s : TargetStore) (ts : List DeviceTarget) (ip : String) :
    (s.replaceAll ts).targets.find? ip = ts.reverse.find? fun t => t.ip = ip := by
  rw [TargetStore.replaceAll, GoMap.find?_foldl_insert_key, GoMap.find?_empty]
  cases ts.reverse.find? fun t => t.ip = ip <;> rfl

/-- Every target of a replaced store is filed under its own IP. -/
theorem ip_of_mem_replaceAll {s : TargetStore} {ts : List DeviceTarget} {ip : String}
    {t : DeviceTarget} (h : (ip, t) ∈ (s.replaceAll ts).targets.entries) : t.ip = ip := by
  rw [GoMap.mem_entries_iff, find?_replaceAll] at h
  simpa using List.find?_some h

theorem mem_getAll_iff (s : TargetStore) (order : GoMap.RangeOrder s.targets) (t : DeviceTarget) :
    t ∈ s.getAll order ↔ ∃ ip, s.targets.find? ip = some t := by
  simp only [TargetStore.getAll, List.mem_map, Prod.exists, exists_and_right, exists_eq_right,
    order.perm.mem_iff, GoMap.mem_entries_iff]

/-- `GetAll` of a replaced store returns exactly the targets that are the last of the slice with
their IP. -/
theorem mem_getAll_replaceAll (s : TargetStore) (ts : List DeviceTarget)
    (order : GoMap.RangeOrder (s.replaceAll ts).targets) (t : DeviceTarget) :
    t ∈ (s.replaceAll ts).getAll order ↔ (ts.reverse.find? fun u => u.ip = t.ip) = some t := by
  rw [mem_getAll_iff]
  simp only [find?_replaceAll]
  constructor
  · rintro ⟨ip, h⟩
    have hip : t.ip = ip := by simpa using List.find?_some h
    rwa [hip]
  · exact fun h => ⟨t.ip, h⟩

/-- `GetAll` of a replaced store returns one target per IP. -/
theorem nodup_getAll_replaceAll (s : TargetStore) (ts : List DeviceTarget)
    (order : GoMap.RangeOrder (s.replaceAll ts).targets) :
    ((s.replaceAll ts).getAll order |>.map DeviceTarget.ip).Nodup := by
  have hkeys := (order.perm.map Prod.fst).nodup_iff.mpr (s.replaceAll ts).targets.nodup
  rw [TargetStore.getAll, List.map_map]
  refine (List.map_congr_left fun e he => ?_).symm ▸ hkeys
  exact ip_of_mem_replaceAll (order.perm.subset he)

/-- `GetAll` of a replaced store returns as many targets as the slice has distinct IPs. -/
theorem length_getAll_replaceAll (s : TargetStore) (ts : List DeviceTarget)
    (order : GoMap.RangeOrder (s.replaceAll ts).targets) :
    ((s.replaceAll ts).getAll order).length = (ts.map DeviceTarget.ip).dedup.length := by
  have hperm : ((s.replaceAll ts).getAll order |>.map DeviceTarget.ip).Perm
      (ts.map DeviceTarget.ip).dedup := by
    refine (List.perm_ext_iff_of_nodup (nodup_getAll_replaceAll s ts order)
      (List.nodup_dedup _)).mpr fun ip => ?_
    simp only [List.mem_map, mem_getAll_replaceAll, List.mem_dedup]
    constructor
    · rintro ⟨t, h, rfl⟩
      exact ⟨t, List.mem_reverse.mp (List.mem_of_find?_eq_some h), rfl⟩
    · rintro ⟨t, ht, rfl⟩
      obtain ⟨u, hu⟩ := Option.isSome_iff_exists.mp
        ((List.find?_isSome (p := fun u => decide (u.ip = t.ip))).mpr
          ⟨t, List.mem_reverse.mpr ht, by simp⟩)
      have hip : u.ip = t.ip := by simpa using List.find?_some hu
      exact ⟨u, by rwa [hip], hip⟩
  rw [← List.length_map _ DeviceTarget.ip, hperm.length_eq]

/-- A list has as many distinct elements as elements exactly when it has no repeat. -/
theorem length_dedup_eq_iff {α : Type} [DecidableEq α] (l : List α) :
    l.dedup.length = l.length ↔ l.Nodup :=
  ⟨fun h => List.dedup_eq_self.mp ((List.dedup_sublist l).eq_of_length h),
    fun h => by rw [List.dedup_eq_self.mpr h]⟩

/-! ## The sync -/

/-- A request that does not bind is answered 400 with the error and leaves the store as it was. -/
theorem syncInventory_of_bind_err (store : TargetStore) (err : String) :
    (syncInventory store (.error err)).1 = store ∧
      (syncInventory store (.error err)).2.status = 400 ∧
      (syncInventory store (.error err)).2.body.find? "error" = some (.string err) :=
  ⟨rfl, rfl, rfl⟩

/-- After a sync of the targets `ts`, from any store: the response is 200 with the count of `ts`;
`GetAll` returns, in any order it takes, exactly the targets that are the last of `ts` with their
IP, one per IP and none of the old store; their number is that of the distinct IPs of `ts`, which
is the count exactly when the IPs of `ts` are distinct; and the next tick polls each of them once.
A request that does not bind is answered 400 and leaves the store as it was. -/
theorem syncInventory_getAll (store : TargetStore) (req : SyncRequest)
    (order : GoMap.RangeOrder (syncInventory store (.ok req)).1.targets) :
    (syncInventory store (.ok req)).2.status = 200 ∧
      (syncInventory store (.ok req)).2.body.find? "count" =
        some (.int (BitVec.ofNat 64 req.targets.length)) ∧
      (∀ t, t ∈ (syncInventory store (.ok req)).1.getAll order ↔
        ((req.targets.map deviceTargetOf).reverse.find? fun u => u.ip = t.ip) = some t) ∧
      ((syncInventory store (.ok req)).1.getAll order |>.map DeviceTarget.ip).Nodup ∧
      ((syncInventory store (.ok req)).1.getAll order).length =
        (req.targets.map Target.ip).dedup.length ∧
      (((syncInventory store (.ok req)).1.getAll order).length = req.targets.length ↔
        (req.targets.map Target.ip).Nodup) ∧
      (runCollection (syncInventory store (.ok req)).1 order).filterMap CollectionEvent.polled? =
        (syncInventory store (.ok req)).1.getAll order ∧
      ∀ err, (syncInventory store (.error err)).1 = store ∧
        (syncInventory store (.error err)).2.status = 400 ∧
        (syncInventory store (.error err)).2.body.find? "error" = some (.string err) := by
  have hips : (req.targets.map deviceTargetOf).map DeviceTarget.ip = req.targets.map Target.ip := by
    rw [List.map_map]; rfl
  have hlen : ((syncInventory store (.ok req)).1.getAll order).length =
      (req.targets.map Target.ip).dedup.length := by
    rw [← hips]
    exact length_getAll_replaceAll store _ order
  refine ⟨rfl, by simp [syncInventory, GoMap.find?, GoMap.lookup], mem_getAll_replaceAll store _ order,
    nodup_getAll_replaceAll store _ order, hlen, ?_, ?_, syncInventory_of_bind_err store⟩
  · rw [hlen, ← List.length_map req.targets Target.ip, length_dedup_eq_iff]
  · simp [runCollection, CollectionEvent.polled?, List.filterMap_map, Function.comp_def]

/-- Two targets behind one NAT address, on two API ports. -/
def natTwins : SyncRequest :=
  ⟨[⟨"10.0.0.1", "mikrotik", ⟨"admin", "first", 8728⟩⟩, ⟨"10.0.0.1", "mikrotik", ⟨"admin", "second", 8729⟩⟩]⟩

theorem syncInventory_getAll_natTwins :
    ∃ order, order = GoMap.RangeOrder.insertion (syncInventory newTargetStore (.ok natTwins)).1.targets ∧
    (syncInventory newTargetStore (.ok natTwins)).2.status = 200 ∧
      (syncInventory newTargetStore (.ok natTwins)).2.body.find? "count" =
        some (.int (BitVec.ofNat 64 natTwins.targets.length)) ∧
      (∀ t, t ∈ (syncInventory newTargetStore (.ok natTwins)).1.getAll order ↔
        ((natTwins.targets.map deviceTargetOf).reverse.find? fun u => u.ip = t.ip) = some t) ∧
      ((syncInventory newTargetStore (.ok natTwins)).1.getAll order |>.map DeviceTarget.ip).Nodup ∧
      ((syncInventory newTargetStore (.ok natTwins)).1.getAll order).length =
        (natTwins.targets.map Target.ip).dedup.length ∧
      (((syncInventory newTargetStore (.ok natTwins)).1.getAll order).length =
          natTwins.targets.length ↔ (natTwins.targets.map Target.ip).Nodup) ∧
      (runCollection (syncInventory newTargetStore (.ok natTwins)).1 order).filterMap
          CollectionEvent.polled? = (syncInventory newTargetStore (.ok natTwins)).1.getAll order ∧
      ∀ err, (syncInventory newTargetStore (.error err)).1 = newTargetStore ∧
        (syncInventory newTargetStore (.error err)).2.status = 400 ∧
        (syncInventory newTargetStore (.error err)).2.body.find? "error" = some (.string err) :=
  ⟨_, rfl, syncInventory_getAll newTargetStore natTwins _⟩

/-- The sync of the twins answers a count of 2, but `GetAll` returns one target, the second, in
whatever order: the first is never polled. -/
theorem syncInventory_natTwins_count :
    (syncInventory newTargetStore (.ok natTwins)).2.body.find? "count" = some (.int 2) ∧
      ∀ order : GoMap.RangeOrder (syncInventory newTargetStore (.ok natTwins)).1.targets,
        (syncInventory newTargetStore (.ok natTwins)).1.getAll order =
          [deviceTargetOf ⟨"10.0.0.1", "mikrotik", ⟨"admin", "second", 8729⟩⟩] := by
  refine ⟨rfl, fun order => ?_⟩
  have hentries : (syncInventory newTargetStore (.ok natTwins)).1.targets.entries =
      [("10.0.0.1", deviceTargetOf ⟨"10.0.0.1", "mikrotik", ⟨"admin", "second", 8729⟩⟩)] := by
    decide
  have h := order.perm
  rw [hentries, List.perm_singleton] at h
  rw [TargetStore.getAll, h]
  rfl

end GoNms.Monitoring
