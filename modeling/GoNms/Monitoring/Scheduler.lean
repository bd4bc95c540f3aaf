import GoNms.Monitoring.Poll

set_option autoImplicit false

/-! # The monitoring service at run time

The API gateway runs three kinds of goroutine around one `TargetStore`. Each `POST
/inventory/sync` request runs `SyncInventory`, whose `ReplaceAll` takes the write lock of the
store's `sync.RWMutex`, starts a fresh map and files the request's targets one by one. The
goroutine `Scheduler.Start` launched waits in a `select` for a tick or for `quit`; on a tick it
runs `runCollection`, whose `GetAll` takes the read lock and copies the map entry by entry, and
then starts one goroutine per target copied (`wg.Add(1)` each), which runs `PollDevice` and hands
its points to the writer. `Scheduler.Stop` closes `quit`, waits for the wait group and closes the
writer.

The model is a transition system in the style of the `ScanSubnet` one. `MonitorState` holds the
store, the lock (the writer holding it, whether the read lock is held), every goroutine with its
place, the wait group's counter, and a history of what the components that share the store can
observe: a `ReplaceAll` returning, a `GetAll` returning, a point reaching the writer. A schedule is
any list of actions; a request may arrive and the ticker may fire at any time, and `range` over the
map visits the entries in any order. The read lock is modelled as granted whenever no writer holds
the lock, which allows more schedules than Go's `RWMutex` (which also holds readers back while a
writer waits), so what holds of every schedule here holds of Go's.

`MonitorInv` holds in every state a schedule reaches (`MonitorInv.run`). From it:
- every `GetAll` returns what `GetAll` returns, in some order of the map, on the store that the
  last `ReplaceAll` to return before it left, as if syncs and collections ran one at a time
  (`run_linearizable`): a collection never sees a sync half done;
- every point that reaches the writer after `writer.Close()` comes from a poll that
  `runCollection` started after `Stop`'s `wg.Wait()` had returned (`run_writes_after_close`), and
  such a poll exists: `Stop` does not stop a collection in progress, which starts its polls after
  `Wait` has returned and they write to the closed writer (`run_write_after_close`). -/

namespace GoNms.Monitoring

open GoNms.Go GoNms.Mikrotik

/-! ## The goroutines -/

/-- Where a `SyncInventory` goroutine is in `ReplaceAll`, once its request is bound. -/
inductive SyncPc where
  /-- at `s.mu.Lock()` -/
  | lock
  /-- holds `mu`; the `range newTargets` loop has `rest` still to file -/
  | insert (rest : List DeviceTarget)
  /-- past the deferred `s.mu.Unlock()` -/
  | done

/-- Between `s.mu.Lock()` and `s.mu.Unlock()`. -/
def SyncPc.holdsLock : SyncPc → Bool
  | .insert _ => true
  | _ => false

/-- A `SyncInventory` goroutine: its bound request and where it is. -/
structure SyncGoroutine where
  request : SyncRequest
  pc : SyncPc

/-- Where the goroutine of `Scheduler.Start` is. -/
inductive TickerPc where
  /-- in the `select` of its loop -/
  | select
  /-- received a tick; at `s.mu.RLock()` in `GetAll` -/
  | rlock
  /-- holds the read lock; `range s.targets` has `rest` still to visit and has appended `result` -/
  | read (rest : List (String × DeviceTarget)) (result : List DeviceTarget)
  /-- in `runCollection`'s loop, with `rest` still to start -/
  | spawn (rest : List DeviceTarget)
  /-- returned, after receiving from `quit` -/
  | exited

/-- Between `s.mu.RLock()` and `s.mu.RUnlock()`. -/
def TickerPc.reading : TickerPc → Bool
  | .read .. => true
  | _ => false

/-- A goroutine `runCollection` started: what it has still to do, whether it is past `wg.Done()`,
and whether `Stop`'s `wg.Wait()` had returned when it was started (a ghost, for the theorems). -/
structure PollGoroutine where
  events : List PollEvent
  done : Bool
  late : Bool

/-- Where `Scheduler.Stop` is. -/
inductive StopPc where
  /-- not called -/
  | running
  /-- `quit` closed; at `s.wg.Wait()` -/
  | wait
  /-- `Wait` returned; at `s.writer.Close()` -/
  | close
  /-- the writer is closed -/
  | stopped
  deriving DecidableEq

/-- Past `s.wg.Wait()`. -/
def StopPc.waited : StopPc → Bool
  | .close | .stopped => true
  | .running | .wait => false

/-- What the body of the goroutine `runCollection` starts for a target does: `PollDevice`, then
the log of its error. -/
def pollGoroutine (dial : RouterOSDial)
    (t : DeviceTarget) : List PollEvent :=
  (pollDevice t dial).1 ++ match (pollDevice t dial).2 with
    | some err => [.log ("Failed to poll " ++ t.ip ++ ": " ++ err)]
    | none => []

/-- What the history records: a `ReplaceAll` returning, a `GetAll` returning its copy, a point
handed to the writer (with whether the writer was closed, and the poll's ghost). -/
inductive Observation where
  | replaced (request : SyncRequest)
  | collected (targets : List DeviceTarget)
  | wrote (point : Point) (afterClose late : Bool)

/-- The request of a `replaced`. -/
def Observation.replaced? : Observation → Option SyncRequest
  | .replaced request => some request
  | _ => none

/-- A state of the service: the store's map and lock, the goroutines, the wait group's counter and
the history. -/
structure MonitorState where
  targets : GoMap String DeviceTarget
  /-- the `SyncInventory` goroutine holding the write lock -/
  writer : Option ℕ
  /-- the ticker goroutine holds the read lock -/
  readLocked : Bool
  syncs : List SyncGoroutine
  ticker : TickerPc
  quit : Bool
  wg : ℕ
  polls : List PollGoroutine
  stop : StopPc
  history : List Observation

/-- A scheduling choice: a sync request binds, sync goroutine `i`'s next statement, a tick, the
read lock granted with `range` visiting in `order`, the ticker goroutine's next statement, poll
goroutine `g`'s next statement, or `Stop`'s next statement. -/
inductive MonitorAct where
  | request (req : SyncRequest)
  | sync (i : ℕ)
  | tick
  | rlock (order : List (String × DeviceTarget))
  | ticker
  | poll (g : ℕ)
  | stop

namespace MonitorState

/-- After `NewTargetStore`, `NewScheduler` and `Start`: an empty store, the ticker goroutine in its
`select`. -/
def start : MonitorState := ⟨GoMap.empty, none, false, [], .select, false, 0, [], .running, []⟩

/-- Sync goroutine `i`'s next statement; `none` while it blocks. -/
def syncStep (s : MonitorState) (i : ℕ) : Option MonitorState :=
  match s.syncs[i]? with
  | some ⟨req, .lock⟩ =>
      if s.writer.isNone && !s.readLocked then
        some { s with writer := some i, targets := GoMap.empty,
                      syncs := s.syncs.set i ⟨req, .insert (req.targets.map deviceTargetOf)⟩ }
      else none
  | some ⟨req, .insert (t :: rest)⟩ =>
      some { s with targets := s.targets.insert t.ip t, syncs := s.syncs.set i ⟨req, .insert rest⟩ }
  | some ⟨req, .insert []⟩ =>
      some { s with writer := none, syncs := s.syncs.set i ⟨req, .done⟩,
                    history := s.history ++ [.replaced req] }
  | some ⟨_, .done⟩ | none => none

/-- The read lock is granted and `range` will visit the entries in `order`. -/
def rlockStep (s : MonitorState) (order : List (String × DeviceTarget)) : Option MonitorState :=
  match s.ticker with
  | .rlock =>
      if s.writer.isNone && decide (order.Perm s.targets.entries) then
        some { s with readLocked := true, ticker := .read order [] }
      else none
  | _ => none

/-- The ticker goroutine's next statement; `none` while it blocks. -/
def tickerStep (dial : RouterOSDial)
    (s : MonitorState) : Option MonitorState :=
  match s.ticker with
  | .select => if s.quit then some { s with ticker := .exited } else none
  | .read ((_, t) :: rest) result => some { s with ticker := .read rest (result ++ [t]) }
  | .read [] result =>
      some { s with readLocked := false, ticker := .spawn result,
                    history := s.history ++ [.collected result] }
  | .spawn (t :: rest) =>
      some { s with ticker := .spawn rest, wg := s.wg + 1,
                    polls := s.polls ++ [⟨pollGoroutine dial t, false, s.stop.waited⟩] }
  | .spawn [] => some { s with ticker := .select }
  | .rlock | .exited => none

/-- Poll goroutine `g`'s next statement: its next event, or `wg.Done()`. -/
def pollStep (s : MonitorState) (g : ℕ) : Option MonitorState :=
  match s.polls[g]? with
  | some ⟨e :: rest, false, late⟩ =>
      some { s with polls := s.polls.set g ⟨rest, false, late⟩,
                    history := s.history ++
                      (e.written?.map fun p => .wrote p (s.stop = .stopped) late).toList }
  | some ⟨[], false, late⟩ =>
      if 0 < s.wg then some { s with wg := s.wg - 1, polls := s.polls.set g ⟨[], true, late⟩ }
      else none
  | _ => none

/-- `Stop`'s next statement; `none` while `Wait` blocks. -/
def stopStep (s : MonitorState) : Option MonitorState :=
  match s.stop with
  | .running => some { s with quit := true, stop := .wait }
  | .wait => if s.wg = 0 then some { s with stop := .close } else none
  | .close => some { s with stop := .stopped }
  | .stopped => none

def step (dial : RouterOSDial) (s : MonitorState) :
    MonitorAct → Option MonitorState
  | .request req => some { s with syncs := s.syncs ++ [⟨req, .lock⟩] }
  | .sync i => s.syncStep i
  | .tick => match s.ticker with
    | .select => some { s with ticker := .rlock }
    | _ => none
  | .rlock order => s.rlockStep order
  | .ticker => s.tickerStep dial
  | .poll g => s.pollStep g
  | .stop => s.stopStep

/-- A schedule from `s`; `none` when one of its actions cannot be taken. -/
def run (dial : RouterOSDial) (s : MonitorState) :
    List MonitorAct → Option MonitorState
  | [] => some s
  | a :: acts => (s.step dial a).bind (·.run dial acts)

end MonitorState

/-! ## The sequential specification -/

/-- The store the `ReplaceAll` of a sync leaves, whatever the store held; `NewTargetStore` before
any. -/
def storeAfter : Option SyncRequest → TargetStore
  | none => newTargetStore
  | some req => (syncInventory newTargetStore (.ok req)).1

/-- The request of the last `ReplaceAll` in a history. -/
def lastReplaced (history : List Observation) : Option SyncRequest :=
  history.reverse.findSome? Observation.replaced?

/-- Every `GetAll` of the history returned what `GetAll` returns on the store the `ReplaceAll`
calls before it left. -/
def Linearizable (history : List Observation) : Prop :=
  ∀ k ts, history[k]? = some (.collected ts) →
    ∃ order, ts = (storeAfter (lastReplaced (history.take k))).getAll order

@[simp] theorem lastReplaced_append_replaced (history : List Observation) (req : SyncRequest) :
    lastReplaced (history ++ [.replaced req]) = some req := by
  simp [lastReplaced, Observation.replaced?]

theorem lastReplaced_append_of_replaced? {history : List Observation} {o : Observation}
    (ho : o.replaced? = none) : lastReplaced (history ++ [o]) = lastReplaced history := by
  simp [lastReplaced, ho]

theorem Linearizable.append {history : List Observation} (hl : Linearizable history)
    {o : Observation} (ho : ∀ ts, o = .collected ts →
      ∃ order, ts = (storeAfter (lastReplaced history)).getAll order) :
    Linearizable (history ++ [o]) := by
  intro k ts hk
  rcases Nat.lt_trichotomy k history.length with hlt | rfl | hgt
  · rw [List.getElem?_append_left hlt] at hk
    rw [List.take_append_of_le_length hlt.le]
    exact hl k ts hk
  · rw [List.getElem?_concat_length] at hk
    rw [List.take_left' rfl]
    exact ho ts (Option.some.inj hk)
  · rw [List.getElem?_eq_none (by simp only [List.length_append, List.length_singleton]; omega)] at hk
    cases hk

/-! ## List helpers -/

theorem lt_length_of_getElem? {α : Type} {l : List α} {i : ℕ} {a : α} (h : l[i]? = some a) :
    i < l.length :=
  Nat.lt_of_not_le fun hle => by rw [List.getElem?_eq_none hle] at h; cases h

/-- An element of a list with one element replaced is the new one, or an old one elsewhere. -/
theorem getElem?_set_cases {α : Type} {l : List α} {i j : ℕ} {a b c : α} (hi : l[i]? = some a)
    (hj : (l.set i b)[j]? = some c) : (j = i ∧ c = b) ∨ (j ≠ i ∧ l[j]? = some c) := by
  by_cases hji : j = i
  · subst hji
    rw [List.getElem?_set_self (lt_length_of_getElem? hi)] at hj
    exact .inl ⟨rfl, (Option.some.inj hj).symm⟩
  · rw [List.getElem?_set_ne (Ne.symm hji)] at hj
    exact .inr ⟨hji, hj⟩

theorem getElem?_append_singleton_cases {α : Type} {l : List α} {j : ℕ} {a c : α}
    (hj : (l ++ [a])[j]? = some c) : l[j]? = some c ∨ (j = l.length ∧ c = a) := by
  rcases Nat.lt_or_ge j l.length with hlt | hge
  · exact .inl (by rwa [List.getElem?_append_left hlt] at hj)
  · rw [List.getElem?_append_right hge] at hj
    have hk : j - l.length = 0 := by
      by_contra hne
      rw [List.getElem?_eq_none (by simp only [List.length_singleton]; omega)] at hj
      cases hj
    rw [hk, List.getElem?_cons_zero, Option.some.injEq] at hj
    exact .inr ⟨by omega, hj.symm⟩

/-- Replacing an element changes a count by what the two elements count. -/
theorem countP_set {α : Type} (p : α → Bool) {l : List α} {i : ℕ} {a : α} (hi : l[i]? = some a)
    (b : α) : (l.set i b).countP p + (if p a then 1 else 0) = l.countP p + (if p b then 1 else 0) := by
  induction l generalizing i with
  | nil => cases hi
  | cons x xs ih =>
      cases i with
      | zero =>
          obtain rfl : x = a := by simpa using hi
          simp only [List.set_cons_zero, List.countP_cons]
          omega
      | succ i =>
          have := ih (by simpa using hi)
          simp only [List.set_cons_succ, List.countP_cons]
          omega

/-! ## The store under its lock -/

/-- The map `ReplaceAll`'s loop has filled after filing the targets `pre`. -/
def filed (pre : List DeviceTarget) : GoMap String DeviceTarget :=
  pre.foldl (fun m t => m.insert t.ip t) GoMap.empty

theorem filed_append_singleton (pre : List DeviceTarget) (t : DeviceTarget) :
    filed (pre ++ [t]) = (filed pre).insert t.ip t := by
  simp only [filed, List.foldl_append, List.foldl_cons, List.foldl_nil]

/-- What the lock and the store satisfy in every reachable state. -/
structure StoreInv (s : MonitorState) : Prop where
  /-- the write lock and the read lock are never held at once -/
  exclusive : s.writer.isSome → s.readLocked = false
  /-- a sync goroutine is in its loop exactly when it holds the write lock -/
  holder : ∀ i g, s.syncs[i]? = some g → (g.pc.holdsLock = true ↔ s.writer = some i)
  holder_lt : ∀ i, s.writer = some i → i < s.syncs.length
  /-- the ticker goroutine is in `GetAll`'s loop exactly when it holds the read lock -/
  reader : s.readLocked = s.ticker.reading
  /-- out of the write lock, the map is the one the last `ReplaceAll` left -/
  store : s.writer = none → s.targets = (storeAfter (lastReplaced s.history)).targets
  /-- in the write lock, the map holds what the loop has filed so far -/
  filling : ∀ (i : ℕ) req rest, s.syncs[i]? = some (SyncGoroutine.mk req (.insert rest)) →
    ∃ pre, pre ++ rest = req.targets.map deviceTargetOf ∧ s.targets = filed pre
  /-- `GetAll`'s loop has visited a prefix of an order of that map -/
  range : ∀ rest result, s.ticker = .read rest result →
    ∃ pre, (pre ++ rest).Perm (storeAfter (lastReplaced s.history)).targets.entries ∧
      result = pre.map Prod.snd
  collected : Linearizable s.history

theorem StoreInv.start : StoreInv .start where
  exclusive := fun h => nomatch h
  holder := fun _ _ h => nomatch h
  holder_lt := fun _ h => nomatch h
  reader := rfl
  store := fun _ => rfl
  filling := fun _ _ _ h => nomatch h
  range := fun _ _ h => nomatch h
  collected := fun _ _ h => nomatch h

variable {s s' : MonitorState}

/-- A sync goroutine other than the writer is out of its loop. -/
theorem StoreInv.not_holdsLock (hi : StoreInv s) {i : ℕ} {g : SyncGoroutine}
    (hg : s.syncs[i]? = some g) (hw : s.writer ≠ some i) : g.pc.holdsLock = false := by
  simpa [hw] using hi.holder i g hg

/-- The ticker goroutine is out of `GetAll`'s loop while it does not hold the read lock. -/
theorem StoreInv.not_read (hi : StoreInv s) (hr : s.readLocked = false)
    (rest : List (String × DeviceTarget)) (result : List DeviceTarget) :
    s.ticker ≠ .read rest result := fun ht => by
  have := hi.reader
  rw [hr, ht] at this
  cases this

/-- A step that leaves the store, the lock and the syncs alone, keeps the ticker out of `GetAll`
or where it was, and adds at most a write to the history, keeps `StoreInv`. -/
theorem StoreInv.frame (hi : StoreInv s) (ht : s'.targets = s.targets) (hw : s'.writer = s.writer)
    (hr : s'.readLocked = s.readLocked) (hs : s'.syncs = s.syncs)
    (htk : s'.ticker = s.ticker ∨ (s.ticker.reading = false ∧ s'.ticker.reading = false))
    (hh : s'.history = s.history ∨ ∃ p c l, s'.history = s.history ++ [.wrote p c l]) :
    StoreInv s' := by
  have hlast : lastReplaced s'.history = lastReplaced s.history := by
    rcases hh with hh | ⟨p, c, l, hh⟩ <;> rw [hh]
    exact lastReplaced_append_of_replaced? rfl
  have hlin : Linearizable s'.history := by
    rcases hh with hh | ⟨p, c, l, hh⟩ <;> rw [hh]
    · exact hi.collected
    · exact hi.collected.append fun _ h => nomatch h
  refine ⟨?_, ?_, ?_, ?_, ?_, ?_, ?_, hlin⟩ <;> (try rw [hw]) <;> (try rw [hs])
  · rw [hr]; exact hi.exclusive
  · exact hi.holder
  · exact hi.holder_lt
  · rcases htk with htk | ⟨h1, h2⟩
    · rw [hr, htk]; exact hi.reader
    · rw [hr, hi.reader, h1, h2]
  · rw [ht, hlast]; exact hi.store
  · rw [ht]; exact hi.filling
  · intro rest result h
    rw [hlast]
    rcases htk with htk | ⟨_, h2⟩
    · exact hi.range rest result (htk ▸ h)
    · rw [h] at h2; cases h2

theorem StoreInv.request (hi : StoreInv s) (req : SyncRequest) :
    StoreInv { s with syncs := s.syncs ++ [⟨req, .lock⟩] } := by
  refine { hi with holder := ?_, holder_lt := ?_, filling := ?_ }
  · intro j g hj
    rcases getElem?_append_singleton_cases hj with hj | ⟨rfl, rfl⟩
    · exact hi.holder j g hj
    · exact ⟨(fun h => nomatch h), fun hw => absurd (hi.holder_lt _ hw) (Nat.lt_irrefl _)⟩
  · intro j hw
    have := hi.holder_lt j hw
    simp only [List.length_append, List.length_singleton]
    omega
  · intro j req' rest hj
    rcases getElem?_append_singleton_cases hj with hj | ⟨_, h⟩
    · exact hi.filling j req' rest hj
    · cases h

theorem StoreInv.syncStep (hi : StoreInv s) {i : ℕ} (h : s.syncStep i = some s') : StoreInv s' := by
  unfold MonitorState.syncStep at h
  split at h
  · next req hg =>
      split_ifs at h with hfree
      cases h
      simp only [Bool.and_eq_true, Option.isNone_iff_eq_none, Bool.not_eq_true'] at hfree
      obtain ⟨hw, hr⟩ := hfree
      have hfree : ∀ j, s.writer ≠ some j := fun j => by rw [hw]; exact (fun h => nomatch h)
      refine ⟨fun _ => hr, ?_, ?_, hi.reader, (fun h => nomatch h), ?_,
        fun rest result ht => absurd ht (hi.not_read hr rest result), hi.collected⟩
      · intro j g hj
        rcases getElem?_set_cases hg hj with ⟨rfl, rfl⟩ | ⟨hji, hj⟩
        · exact ⟨fun _ => rfl, fun _ => rfl⟩
        · rw [hi.not_holdsLock hj (hfree j)]
          simpa using Ne.symm hji
      · rintro j ⟨⟩
        simpa using lt_length_of_getElem? hg
      · intro j req' rest hj
        rcases getElem?_set_cases hg hj with ⟨rfl, h⟩ | ⟨_, hj⟩
        · cases h
          exact ⟨[], rfl, rfl⟩
        · exact absurd (hi.not_holdsLock hj (hfree j)) (fun h => nomatch h)
  · next req t rest hg =>
      cases h
      have hw : s.writer = some i := (hi.holder i _ hg).mp rfl
      refine ⟨hi.exclusive, ?_, fun j hj => (by simpa using hi.holder_lt j hj), hi.reader,
        fun h => (by rw [hw] at h; cases h), ?_,
        fun rest result ht => absurd ht (hi.not_read (hi.exclusive (by rw [hw]; rfl)) rest result),
        hi.collected⟩
      · intro j g hj
        rcases getElem?_set_cases hg hj with ⟨rfl, rfl⟩ | ⟨_, hj⟩
        · exact ⟨fun _ => hw, fun _ => rfl⟩
        · exact hi.holder j g hj
      · intro j req' rest' hj
        rcases getElem?_set_cases hg hj with ⟨rfl, h⟩ | ⟨hji, hj⟩
        · cases h
          obtain ⟨pre, hpre, ht⟩ := hi.filling _ req (t :: rest) hg
          exact ⟨pre ++ [t], by simpa using hpre, by rw [filed_append_singleton, ht]⟩
        · have hw' := (hi.holder j _ hj).mp rfl
          rw [hw] at hw'
          exact absurd (Option.some.inj hw').symm hji
  · next req hg =>
      cases h
      have hw : s.writer = some i := (hi.holder i _ hg).mp rfl
      have hother : ∀ j, j ≠ i → s.writer ≠ some j := fun j hji h => by
        rw [hw] at h
        exact hji (Option.some.inj h).symm
      obtain ⟨pre, hpre, ht⟩ := hi.filling i req [] hg
      refine ⟨(fun h => nomatch h), ?_, (fun _ h => nomatch h), hi.reader, fun _ => ?_, ?_,
        fun rest result h => absurd h (hi.not_read (hi.exclusive (by rw [hw]; rfl)) rest result),
        hi.collected.append (fun _ h => nomatch h)⟩
      · intro j g hj
        rcases getElem?_set_cases hg hj with ⟨rfl, rfl⟩ | ⟨hji, hj⟩
        · exact ⟨(fun h => nomatch h), (fun h => nomatch h)⟩
        · rw [hi.not_holdsLock hj (hother j hji)]
          exact ⟨(fun h => nomatch h), (fun h => nomatch h)⟩
      · rw [lastReplaced_append_replaced]
        show s.targets = filed (req.targets.map deviceTargetOf)
        rw [ht, ← hpre, List.append_nil]
      · intro j req' rest hj
        rcases getElem?_set_cases hg hj with ⟨rfl, h⟩ | ⟨hji, hj⟩
        · cases h
        · exact absurd ((hi.holder j _ hj).mp rfl) (hother j hji)
  all_goals cases h

theorem StoreInv.rlockStep (hi : StoreInv s) {order : List (String × DeviceTarget)}
    (h : s.rlockStep order = some s') : StoreInv s' := by
  unfold MonitorState.rlockStep at h
  split at h
  · split_ifs at h with hc
    cases h
    simp only [Bool.and_eq_true, Option.isNone_iff_eq_none, decide_eq_true_eq] at hc
    obtain ⟨hw, hperm⟩ := hc
    refine { hi with exclusive := fun h => (by rw [hw] at h; cases h), reader := rfl, range := ?_ }
    rintro rest result ⟨⟩
    exact ⟨[], by rw [List.nil_append, ← hi.store hw]; exact hperm, rfl⟩
  · cases h

theorem StoreInv.tickerStep (hi : StoreInv s)
    {dial : RouterOSDial}
    (h : s.tickerStep dial = some s') : StoreInv s' := by
  unfold MonitorState.tickerStep at h
  split at h
  · next hsel =>
      split_ifs at h
      cases h
      exact hi.frame rfl rfl rfl rfl (.inr ⟨by rw [hsel]; rfl, rfl⟩) (.inl rfl)
  · next k t rest result hrd =>
      cases h
      refine { hi with reader := (by rw [hi.reader, hrd]; rfl), range := ?_ }
      rintro rest' result' ⟨⟩
      obtain ⟨pre, hperm, hres⟩ := hi.range _ _ hrd
      exact ⟨pre ++ [(k, t)], by simpa using hperm, by simp [hres]⟩
  · next result hrd =>
      cases h
      obtain ⟨pre, hperm, hres⟩ := hi.range _ _ hrd
      refine ⟨fun _ => rfl, hi.holder, hi.holder_lt, rfl, ?_, hi.filling,
        (fun _ _ h => nomatch h), hi.collected.append ?_⟩
      · rw [lastReplaced_append_of_replaced? (o := .collected result) rfl]
        exact hi.store
      · rintro ts ⟨⟩
        exact ⟨⟨pre, by simpa using hperm⟩, hres⟩
  · next hsp =>
      cases h
      exact hi.frame rfl rfl rfl rfl (.inr ⟨by rw [hsp]; rfl, rfl⟩) (.inl rfl)
  · next hsp =>
      cases h
      exact hi.frame rfl rfl rfl rfl (.inr ⟨by rw [hsp]; rfl, rfl⟩) (.inl rfl)
  all_goals cases h

theorem StoreInv.pollStep (hi : StoreInv s) {g : ℕ} (h : s.pollStep g = some s') : StoreInv s' := by
  unfold MonitorState.pollStep at h
  split at h
  · next e rest late hg =>
      cases h
      refine hi.frame rfl rfl rfl rfl (.inl rfl) ?_
      cases e.written? with
      | none => exact .inl (List.append_nil _)
      | some p => exact .inr ⟨p, _, late, rfl⟩
  · split_ifs at h
    cases h
    exact hi.frame rfl rfl rfl rfl (.inl rfl) (.inl rfl)
  · cases h

theorem StoreInv.stopStep (hi : StoreInv s) (h : s.stopStep = some s') : StoreInv s' := by
  unfold MonitorState.stopStep at h
  split at h <;> (try split_ifs at h) <;> cases h <;>
    exact hi.frame rfl rfl rfl rfl (.inl rfl) (.inl rfl)

theorem StoreInv.step (hi : StoreInv s)
    {dial : RouterOSDial} {a : MonitorAct}
    (h : s.step dial a = some s') : StoreInv s' := by
  cases a with
  | request req =>
      cases h
      exact hi.request req
  | sync i => exact hi.syncStep h
  | tick =>
      simp only [MonitorState.step] at h
      split at h
      · next hsel =>
          cases h
          exact hi.frame rfl rfl rfl rfl (.inr ⟨by rw [hsel]; rfl, rfl⟩) (.inl rfl)
      · cases h
  | rlock order => exact hi.rlockStep h
  | ticker => exact hi.tickerStep h
  | poll g => exact hi.pollStep h
  | stop => exact hi.stopStep h

/-! ## The wait group and `Stop` -/

/-- What the wait group, `Stop` and the writes satisfy in every reachable state. -/
structure StopInv (s : MonitorState) : Prop where
  /-- the counter is the number of polls not past `wg.Done()` -/
  wg : s.wg = s.polls.countP (!·.done)
  /-- once `Wait` has returned, every poll started before it is past `wg.Done()` -/
  waited : s.stop.waited = true → ∀ g ∈ s.polls, g.late = false → g.done = true
  /-- a point written after `Close` comes from a poll started after `Wait` returned -/
  closedWrites : ∀ p late, Observation.wrote p true late ∈ s.history → late = true

theorem StopInv.start : StopInv .start where
  wg := rfl
  waited := fun h => nomatch h
  closedWrites := fun _ _ h => nomatch h

/-- A step that leaves the polls, the counter and `Stop` alone and writes nothing keeps
`StopInv`. -/
theorem StopInv.frame (hi : StopInv s) (hw : s'.wg = s.wg) (hp : s'.polls = s.polls)
    (hs : s'.stop = s.stop)
    (hh : ∃ o, s'.history = s.history ++ o ∧ ∀ p c l, Observation.wrote p c l ∉ o) : StopInv s' := by
  obtain ⟨o, hh, hnot⟩ := hh
  refine ⟨by rw [hw, hp]; exact hi.wg, by rw [hs, hp]; exact hi.waited, ?_⟩
  intro p late hmem
  rw [hh, List.mem_append] at hmem
  exact hmem.elim (hi.closedWrites p late) fun h => absurd h (hnot p true late)

theorem StopInv.tickerStep (hi : StopInv s)
    {dial : RouterOSDial}
    (h : s.tickerStep dial = some s') : StopInv s' := by
  unfold MonitorState.tickerStep at h
  split at h
  · split_ifs at h
    cases h
    exact hi.frame rfl rfl rfl ⟨[], (List.append_nil _).symm, fun _ _ _ h => nomatch h⟩
  · cases h
    exact hi.frame rfl rfl rfl ⟨[], (List.append_nil _).symm, fun _ _ _ h => nomatch h⟩
  · cases h
    exact hi.frame rfl rfl rfl ⟨_, rfl, fun _ _ _ h => by simp at h⟩
  · next t rest _ =>
      cases h
      refine ⟨?_, ?_, hi.closedWrites⟩
      · simp only [List.countP_append, List.countP_singleton, Bool.not_false, if_true, hi.wg]
      · intro hwait g hg hlate
        rcases List.mem_append.mp hg with hg | hg
        · exact hi.waited hwait g hg hlate
        · obtain rfl := List.mem_singleton.mp hg
          rw [hwait] at hlate
          cases hlate
  · cases h
    exact hi.frame rfl rfl rfl ⟨[], (List.append_nil _).symm, fun _ _ _ h => nomatch h⟩
  all_goals cases h

theorem StopInv.pollStep (hi : StopInv s) {g : ℕ} (h : s.pollStep g = some s') : StopInv s' := by
  unfold MonitorState.pollStep at h
  split at h
  · next e rest late hg =>
      cases h
      have hmem : (⟨e :: rest, false, late⟩ : PollGoroutine) ∈ s.polls := List.getElem?_mem hg
      have hlate : s.stop.waited = true → late = true := fun hwait => by
        cases hl : late
        · exact absurd (hi.waited hwait _ hmem hl) (fun h => nomatch h)
        · rfl
      refine ⟨?_, ?_, ?_⟩
      · have := countP_set (!·.done) hg ⟨rest, false, late⟩
        simp only [Bool.not_false, if_true] at this
        dsimp only
        rw [hi.wg]
        omega
      · intro hwait g' hg' hl
        rcases List.mem_or_eq_of_mem_set hg' with hg' | rfl
        · exact hi.waited hwait g' hg' hl
        · rw [hlate hwait] at hl
          cases hl
      · intro p l hp
        rw [List.mem_append] at hp
        rcases hp with hp | hp
        · exact hi.closedWrites p l hp
        · cases hw : e.written? with
          | none => rw [hw] at hp; cases hp
          | some q =>
              rw [hw] at hp
              simp only [Option.map_some', Option.toList_some, List.mem_singleton,
                Observation.wrote.injEq, decide_eq_true_eq] at hp
              obtain ⟨-, hstop, rfl⟩ := hp
              exact hlate (by rw [of_decide_eq_true hstop.symm]; rfl)
  · next late hg =>
      split_ifs at h with hpos
      cases h
      refine ⟨?_, ?_, hi.closedWrites⟩
      · have := countP_set (!·.done) hg ⟨[], true, late⟩
        simp only [Bool.not_false, Bool.not_true, if_true, Bool.false_eq_true, if_false] at this
        dsimp only
        rw [hi.wg] at hpos ⊢
        omega
      · intro hwait g' hg' hl
        rcases List.mem_or_eq_of_mem_set hg' with hg' | rfl
        · exact hi.waited hwait g' hg' hl
        · rfl
  · cases h

theorem StopInv.stopStep (hi : StopInv s) (h : s.stopStep = some s') : StopInv s' := by
  unfold MonitorState.stopStep at h
  split at h
  · cases h
    exact { hi with waited := fun h => nomatch h }
  · split_ifs at h with hwg
    cases h
    refine { hi with waited := fun _ g hg _ => ?_ }
    have hzero : s.polls.countP (!·.done) = 0 := hi.wg ▸ hwg
    simpa using List.countP_eq_zero.mp hzero g hg
  · next hclose =>
      cases h
      exact { hi with waited := fun _ => hi.waited (by rw [hclose]; rfl) }
  · cases h

theorem StopInv.step (hi : StopInv s)
    {dial : RouterOSDial} {a : MonitorAct}
    (h : s.step dial a = some s') : StopInv s' := by
  cases a with
  | request req =>
      cases h
      exact hi.frame rfl rfl rfl ⟨[], (List.append_nil _).symm, fun _ _ _ h => nomatch h⟩
  | sync i =>
      simp only [MonitorState.step, MonitorState.syncStep] at h
      split at h
      · split_ifs at h
        cases h
        exact hi.frame rfl rfl rfl ⟨[], (List.append_nil _).symm, fun _ _ _ h => nomatch h⟩
      · cases h
        exact hi.frame rfl rfl rfl ⟨[], (List.append_nil _).symm, fun _ _ _ h => nomatch h⟩
      · cases h
        exact hi.frame rfl rfl rfl ⟨_, rfl, fun _ _ _ h => by simp at h⟩
      all_goals cases h
  | tick =>
      simp only [MonitorState.step] at h
      split at h
      · cases h
        exact hi.frame rfl rfl rfl ⟨[], (List.append_nil _).symm, fun _ _ _ h => nomatch h⟩
      · cases h
  | rlock order =>
      simp only [MonitorState.step, MonitorState.rlockStep] at h
      split at h
      · split_ifs at h
        cases h
        exact hi.frame rfl rfl rfl ⟨[], (List.append_nil _).symm, fun _ _ _ h => nomatch h⟩
      · cases h
  | ticker => exact hi.tickerStep h
  | poll g => exact hi.pollStep h
  | stop => exact hi.stopStep h

/-! ## Every schedule -/

/-- What holds in every state a schedule reaches from `start`. -/
structure MonitorInv (s : MonitorState) : Prop where
  store : StoreInv s
  stop : StopInv s

theorem MonitorInv.run {dial : RouterOSDial}
    {acts : List MonitorAct} : ∀ {s s' : MonitorState}, MonitorInv s → s.run dial acts = some s' →
      MonitorInv s' := by
  induction acts with
  | nil =>
      intro s s' hi h
      cases h
      exact hi
  | cons a acts ih =>
      intro s s' hi h
      obtain ⟨s₁, h₁, h⟩ := Option.bind_eq_some.mp h
      exact ih ⟨hi.store.step h₁, hi.stop.step h₁⟩ h

/-- In every run, every `GetAll` returned, in some order `range` may take, exactly what `GetAll`
returns on the store the last `ReplaceAll` before it left (`NewTargetStore`'s before any): syncs
and collections behave as if each ran alone. -/
theorem run_linearizable (dial : RouterOSDial)
    (acts : List MonitorAct) {s : MonitorState} (h : MonitorState.start.run dial acts = some s) :
    ∀ k ts, s.history[k]? = some (.collected ts) →
      ∃ order, ts = (storeAfter (lastReplaced (s.history.take k))).getAll order :=
  (MonitorInv.run ⟨.start, .start⟩ h).store.collected

/-- In every run, once `Stop`'s `Wait` has returned every poll started before is past
`wg.Done()`, and every point handed to the writer after `writer.Close()` comes from a poll that
`runCollection` started after `Wait` returned. -/
theorem run_writes_after_close (dial : RouterOSDial)
    (acts : List MonitorAct) {s : MonitorState} (h : MonitorState.start.run dial acts = some s) :
    (s.stop.waited = true → ∀ g ∈ s.polls, g.late = false → g.done = true) ∧
      ∀ p late, Observation.wrote p true late ∈ s.history → late = true :=
  have hi := (MonitorInv.run ⟨.start, .start⟩ h).stop
  ⟨hi.waited, hi.closedWrites⟩

/-! ## A collection outliving `Stop` -/

theorem MonitorState.run_append (dial : RouterOSDial)
    (s : MonitorState) (acts acts' : List MonitorAct) :
    s.run dial (acts ++ acts') = (s.run dial acts).bind (·.run dial acts') := by
  induction acts generalizing s with
  | nil => rfl
  | cons a acts ih =>
      simp only [List.cons_append, MonitorState.run]
      cases s.step dial a with
      | none => rfl
      | some s₁ => exact ih s₁

/-- Poll goroutine `g` performs the events `pre` one by one: the history gets their writes. -/
theorem MonitorState.run_replicate_poll
    (dial : RouterOSDial) {g : ℕ} {late : Bool}
    (rest : List PollEvent) : ∀ (pre : List PollEvent) (s : MonitorState),
      s.polls[g]? = some ⟨pre ++ rest, false, late⟩ →
      ∃ s', s.run dial (List.replicate pre.length (.poll g)) = some s' ∧ s'.stop = s.stop ∧
        s'.history = s.history ++
          pre.filterMap fun e => e.written?.map fun p => .wrote p (s.stop = .stopped) late := by
  intro pre
  induction pre with
  | nil => exact fun s _ => ⟨s, rfl, rfl, (List.append_nil _).symm⟩
  | cons e pre ih =>
      intro s hg
      let s₁ : MonitorState := { s with
        polls := s.polls.set g ⟨pre ++ rest, false, late⟩
        history := s.history ++
          (e.written?.map (fun p => Observation.wrote p (s.stop = .stopped) late)).toList }
      have h₁ : s.step dial (.poll g) = some s₁ := by
        simp only [MonitorState.step, MonitorState.pollStep, hg, List.cons_append]
      obtain ⟨s', hrun, hstop, hhist⟩ :=
        ih s₁ (List.getElem?_set_self (lt_length_of_getElem? hg))
      refine ⟨s', ?_, hstop, ?_⟩
      · rw [List.length_cons, List.replicate_succ, MonitorState.run, h₁]
        exact hrun
      · rw [hhist, List.filterMap_cons, List.append_assoc]
        cases e.written? <;> rfl

/-- A sync of one target, a tick that copies it, `Stop` up to `writer.Close()`, and then the
collection's loop starting the target's poll. -/
def stopDuringCollection (target : Target) : List MonitorAct :=
  [.request ⟨[target]⟩, .sync 0, .sync 0, .sync 0, .tick,
    .rlock [((deviceTargetOf target).ip, deviceTargetOf target)], .ticker, .ticker,
    .stop, .stop, .stop, .ticker]

theorem run_stopDuringCollection (dial : RouterOSDial)
    (target : Target) :
    ∃ s, MonitorState.start.run dial (stopDuringCollection target) = some s ∧
      s.polls[0]? = some ⟨pollGoroutine dial (deviceTargetOf target), false, true⟩ ∧
      s.stop = .stopped := by
  simp only [stopDuringCollection, MonitorState.run, MonitorState.step, MonitorState.start,
    GoMap.empty, List.nil_append, MonitorState.syncStep, Bool.and_eq_true,
    Option.isNone_iff_eq_none, Bool.not_eq_eq_eq_not, Bool.not_true, GoMap.insert, GoMap.upsert,
    List.mem_map, Prod.exists, exists_and_right, exists_eq_right, MonitorState.rlockStep,
    List.singleton_perm, decide_eq_true_eq, MonitorState.tickerStep, StopPc.waited,
    MonitorState.stopStep, Option.bind_some, Option.some_bind, List.length_singleton, zero_lt_one,
    List.getElem?_eq_getElem, List.getElem_cons_zero, and_self, ↓reduceIte, List.map_cons,
    List.map_nil, List.set_cons_zero, List.not_mem_nil, ↓reduceDIte, List.singleton_append,
    zero_add, Option.some.injEq, exists_eq_left']

/-- For every target and every dial whose poll of the target writes a point, some schedule hands
that point to the writer after `Stop` has closed it: `Stop` closes `quit` and waits while the
ticker goroutine is in `runCollection`, `Wait` returns at once because the loop has not yet run
`wg.Add(1)`, and the poll the loop then starts writes to the closed writer. -/
theorem run_write_after_close (target : Target)
    (dial : RouterOSDial) (p : Point)
    (hp : PollEvent.write p ∈ (pollDevice (deviceTargetOf target) dial).1) :
    ∃ acts s, MonitorState.start.run dial acts = some s ∧ Observation.wrote p true true ∈ s.history := by
  obtain ⟨s₁, h₁, hg, hstop⟩ := run_stopDuringCollection dial target
  obtain ⟨pre, post, hsplit⟩ := List.append_of_mem hp
  obtain ⟨rest, hev⟩ : ∃ rest, pollGoroutine dial (deviceTargetOf target) =
      (pre ++ [.write p]) ++ rest := ⟨_, by
    rw [pollGoroutine, hsplit]
    simp only [List.append_assoc, List.singleton_append, List.cons_append, List.nil_append]
    rfl⟩
  rw [hev] at hg
  obtain ⟨s₂, h₂, -, hhist⟩ := MonitorState.run_replicate_poll dial rest _ s₁ hg
  refine ⟨stopDuringCollection target ++ List.replicate (pre ++ [PollEvent.write p]).length (MonitorAct.poll 0), s₂,
    by rw [MonitorState.run_append, h₁]; exact h₂, ?_⟩
  rw [hhist, hstop]
  simp [PollEvent.written?]

/-- A target of the inventory. -/
def edgeTarget : Target := ⟨"10.0.0.1", "mikrotik", ⟨"admin", "secret", 8728⟩⟩

/-- A router that logs in `admin` with password `secret` only, answering every command with one
empty sentence. -/
def emptySentenceDial : RouterOSDial := fun _ username password =>
  if username = "admin" ∧ password = "secret" then .ok fun _ => .ok [GoMap.empty]
  else .error "invalid user name or password"

theorem run_write_after_close_edge :
    ∃ p, PollEvent.write p ∈ (pollDevice (deviceTargetOf edgeTarget) emptySentenceDial).1 ∧
      ∃ acts s, MonitorState.start.run emptySentenceDial acts = some s ∧
        Observation.wrote p true true ∈ s.history :=
  ⟨_, List.mem_cons_self _ _,
    run_write_after_close edgeTarget emptySentenceDial _ (List.mem_cons_self _ _)⟩

theorem run_linearizable_edge :
    ∃ s, MonitorState.start.run emptySentenceDial (stopDuringCollection edgeTarget) = some s ∧
      ∀ k ts, s.history[k]? = some (.collected ts) →
        ∃ order, ts = (storeAfter (lastReplaced (s.history.take k))).getAll order :=
  (run_stopDuringCollection emptySentenceDial edgeTarget).elim fun _ h =>
    ⟨_, h.1, run_linearizable emptySentenceDial _ h.1⟩

theorem run_writes_after_close_edge :
    ∃ s, MonitorState.start.run emptySentenceDial (stopDuringCollection edgeTarget) = some s ∧
      (s.stop.waited = true → ∀ g ∈ s.polls, g.late = false → g.done = true) ∧
      ∀ p late, Observation.wrote p true late ∈ s.history → late = true :=
  (run_stopDuringCollection emptySentenceDial edgeTarget).elim fun _ h =>
    ⟨_, h.1, run_writes_after_close emptySentenceDial _ h.1⟩

end GoNms.Monitoring
