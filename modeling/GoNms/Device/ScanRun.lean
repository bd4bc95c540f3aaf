import GoNms.Device.Discovery
import GoNms.Device.Model

set_option autoImplicit false

/-! # The goroutines of `ScanSubnet`

For each address its loop visits, `ScanSubnet` runs `wg.Add(1)`, takes a slot of the buffered
channel `sem` (capacity 50, blocking while it is full) and starts a goroutine. The goroutine pings
the address; when the ping answers it takes `mu`, appends a device to the shared slice `devices`
and releases `mu`. Its deferred calls then give the slot back (`<-sem`) and run `wg.Done()`. After
the loop the main goroutine waits for the wait group's counter to reach zero and returns `devices`.

The model is a transition system. `ScanState` holds the main goroutine's place, the started
goroutines in the order they were started (each with its address and its place in the body), and
the shared variables: `devices`, whether `mu` is held, the number of slots taken and the wait
group's counter. A schedule is any list of actions: the main goroutine's next statement, the
answer of a goroutine's ping, or a goroutine's next statement. `append` reads the slice and then
stores the longer one, two steps that another goroutine could come between if `mu` did not keep it
out. The answers of the pings are the schedule's: any address may answer or not.

`ScanInv` holds in every state a schedule reaches (`ScanInv.run`). From it:
- at most one goroutine holds `mu`, and at most 50 are between taking a slot and giving it back
  (`countP_holdsMu_le`, `countP_holdsSlot_le`);
- no schedule deadlocks: until `ScanSubnet` returns, some action can be taken (`exists_step`);
- no schedule is longer than `10 * n + 1` steps for `n` addresses (`length_le_of_run`), so every
  schedule ends, and by the above it ends with `ScanSubnet` returned;
- when it returns, every goroutine has finished, and `devices` holds, in some order, one device for
  each visited address whose ping the schedule answered yes, and nothing else: `Answered` ties every
  goroutine's phase to the answer the schedule gave its ping (`scanSubnetRun_devices`). -/

namespace GoNms

open GoNms.Go

/-- The device a goroutine appends for an address whose ping answered. -/
def discoveredDevice (targetIP : String) : DeviceRow :=
  { id := "", name := "Discovered Device " ++ targetIP, ipAddress := targetIP,
    deviceType := DeviceTypeSwitch, protocol := "", enabled := false, credentials := none,
    status := DeviceStatusOnline, pollingInterval := 0, groupID := none, description := "",
    tags := none, lastSeen := none }

/-- `cap(sem)`. -/
def semCapacity : ℕ := 50

/-- Where a ping goroutine is in its body; `alive` is what its ping answered. -/
inductive Phase where
  /-- at `checkPing(targetIP)` -/
  | ping
  /-- at `mu.Lock()` -/
  | lock
  /-- holds `mu`; at the read of `devices` in `append` -/
  | read
  /-- holds `mu`; has read `devices` as `snapshot` and stores it with the new device -/
  | write (snapshot : List DeviceRow)
  /-- holds `mu`; at `mu.Unlock()` -/
  | unlock
  /-- at the deferred `<-sem` -/
  | release (alive : Bool)
  /-- at the deferred `wg.Done()` -/
  | done (alive : Bool)
  /-- returned -/
  | exited (alive : Bool)
  deriving DecidableEq

namespace Phase

/-- Between `mu.Lock()` and `mu.Unlock()`. -/
def holdsMu : Phase → Bool
  | .read | .write _ | .unlock => true
  | _ => false

/-- Between the main goroutine's `sem <- struct{}{}` and the deferred `<-sem`. -/
def holdsSlot : Phase → Bool
  | .done _ | .exited _ => false
  | _ => true

/-- Not yet past `wg.Done()`. -/
def running : Phase → Bool
  | .exited _ => false
  | _ => true

/-- Past the store of the longer slice. -/
def appended : Phase → Bool
  | .unlock => true
  | .release alive | .done alive | .exited alive => alive
  | _ => false

/-- The statements the goroutine has still to run, at most. -/
def weight : Phase → ℕ
  | .ping => 7
  | .lock => 6
  | .read => 5
  | .write _ => 4
  | .unlock => 3
  | .release _ => 2
  | .done _ => 1
  | .exited _ => 0

end Phase

/-- A started goroutine: the address it pings and where it is. -/
structure Goroutine where
  targetIP : String
  phase : Phase
  deriving DecidableEq

/-- The device the goroutine has added to `devices`, if any. -/
def Goroutine.recorded (r : Goroutine) : Option DeviceRow :=
  if r.phase.appended then some (discoveredDevice r.targetIP) else none

/-- Where the main goroutine is: at the top of an iteration (at `wg.Wait()` once no address is
left), past `wg.Add(1)`, past `sem <- struct{}{}`, or returned. -/
inductive MainPc where
  | top
  | added (targetIP : String)
  | acquired (targetIP : String)
  | returned
  deriving DecidableEq

namespace MainPc

/-- The address of the iteration in progress. -/
def current : MainPc → List String
  | .added t | .acquired t => [t]
  | _ => []

/-- The slot of `sem` taken for the goroutine about to start. -/
def slot : MainPc → ℕ
  | .acquired _ => 1
  | _ => 0

/-- The main goroutine's statements still to run, with those of the goroutine it is starting. -/
def weight : MainPc → ℕ
  | .top => 1
  | .added _ => 10
  | .acquired _ => 9
  | .returned => 0

end MainPc

/-- A state of `ScanSubnet`'s run: the addresses (as `ip.String()`) the loop has still to visit,
the main goroutine, the started goroutines in order, and the shared variables. -/
structure ScanState where
  pending : List String
  main : MainPc
  goroutines : List Goroutine
  devices : List DeviceRow
  locked : Bool
  sem : ℕ
  wg : ℕ

/-- A scheduling choice: the main goroutine's next statement, the answer of goroutine `g`'s ping,
or goroutine `g`'s next statement. -/
inductive ScanAct where
  | main
  | ping (g : ℕ) (alive : Bool)
  | run (g : ℕ)

namespace ScanState

/-- The state in which `ScanSubnet` enters its loop over `targets`. -/
def start (targets : List String) : ScanState := ⟨targets, .top, [], [], false, 0, 0⟩

/-- The main goroutine's next statement; `none` while it blocks. -/
def mainStep (s : ScanState) : Option ScanState :=
  match s.main, s.pending with
  | .top, t :: rest => some { s with main := .added t, pending := rest, wg := s.wg + 1 }
  | .top, [] => if s.wg = 0 then some { s with main := .returned } else none
  | .added t, _ =>
      if s.sem < semCapacity then some { s with main := .acquired t, sem := s.sem + 1 } else none
  | .acquired t, _ => some { s with main := .top, goroutines := s.goroutines ++ [⟨t, .ping⟩] }
  | .returned, _ => none

/-- Goroutine `g`, which is `r`, moves to `p`. -/
def setPhase (s : ScanState) (g : ℕ) (r : Goroutine) (p : Phase) : ScanState :=
  { s with goroutines := s.goroutines.set g ⟨r.targetIP, p⟩ }

/-- Goroutine `g`'s `checkPing` answers `alive`. -/
def pingStep (s : ScanState) (g : ℕ) (alive : Bool) : Option ScanState :=
  match s.goroutines[g]? with
  | some r =>
      if r.phase = .ping then some (s.setPhase g r (if alive then .lock else .release false))
      else none
  | none => none

/-- Goroutine `g`'s next statement after its ping; `none` while it blocks. -/
def runStep (s : ScanState) (g : ℕ) : Option ScanState :=
  match s.goroutines[g]? with
  | none => none
  | some r =>
      match r.phase with
      | .lock => if s.locked then none else some ({ s with locked := true }.setPhase g r .read)
      | .read => some (s.setPhase g r (.write s.devices))
      | .write snapshot =>
          some ({ s with devices := snapshot ++ [discoveredDevice r.targetIP] }.setPhase g r .unlock)
      | .unlock => some ({ s with locked := false }.setPhase g r (.release true))
      | .release alive =>
          if 0 < s.sem then some ({ s with sem := s.sem - 1 }.setPhase g r (.done alive)) else none
      | .done alive =>
          if 0 < s.wg then some ({ s with wg := s.wg - 1 }.setPhase g r (.exited alive)) else none
      | .ping | .exited _ => none

def step (s : ScanState) : ScanAct → Option ScanState
  | .main => s.mainStep
  | .ping g alive => s.pingStep g alive
  | .run g => s.runStep g

/-- A schedule from `s`; `none` when one of its actions cannot be taken. -/
def run (s : ScanState) : List ScanAct → Option ScanState
  | [] => some s
  | a :: acts => (s.step a).bind (·.run acts)

/-- The statements still to run, at most. -/
def weight (s : ScanState) : ℕ :=
  10 * s.pending.length + s.main.weight + (s.goroutines.map (·.phase.weight)).sum

end ScanState

/-! ## The invariant -/

/-- What holds in every state a schedule reaches from `start targets`. -/
structure ScanInv (targets : List String) (s : ScanState) : Prop where
  /-- every address is the goroutine of one iteration, in the loop's order -/
  targets : s.goroutines.map (·.targetIP) ++ s.main.current ++ s.pending = targets
  /-- `mu` is held by one goroutine, or by none -/
  mutex : s.goroutines.countP (·.phase.holdsMu) = if s.locked then 1 else 0
  /-- a goroutine between the read and the store of `append` read the current slice -/
  snapshot : ∀ r ∈ s.goroutines, ∀ snap, r.phase = .write snap → snap = s.devices
  /-- `devices` holds the devices the goroutines have appended, each once -/
  devices : s.devices.Perm (s.goroutines.filterMap Goroutine.recorded)
  /-- `sem` counts the slots held -/
  sem : s.sem = s.goroutines.countP (·.phase.holdsSlot) + s.main.slot
  sem_le : s.sem ≤ semCapacity
  /-- the wait group counts the goroutines not past `wg.Done()`, and the one about to start -/
  wg : s.wg = s.goroutines.countP (·.phase.running) + s.main.current.length
  returned : s.main = .returned → s.pending = [] ∧ s.wg = 0

theorem ScanInv.start (targets : List String) : ScanInv targets (.start targets) where
  targets := rfl
  mutex := rfl
  snapshot := fun _ h => nomatch h
  devices := .nil
  sem := rfl
  sem_le := Nat.zero_le _
  wg := rfl
  returned := fun h => nomatch h

/-- The element at `g`, and the list with it replaced, around the same prefix and suffix. -/
theorem exists_set_eq_append {α : Type} {l : List α} {g : ℕ} {a : α} (hg : l[g]? = some a)
    (b : α) : ∃ pre post, l = pre ++ a :: post ∧ l.set g b = pre ++ b :: post := by
  induction l generalizing g with
  | nil => simp at hg
  | cons x xs ih =>
      cases g with
      | zero =>
          obtain rfl : x = a := by simpa using hg
          exact ⟨[], xs, rfl, rfl⟩
      | succ g =>
          obtain ⟨pre, post, h1, h2⟩ := ih (by simpa using hg)
          exact ⟨x :: pre, post, by rw [h1]; rfl, by rw [List.set_cons_succ, h2]; rfl⟩

theorem filterMap_cons_toList {α β : Type} (f : α → Option β) (a : α) (l : List α) :
    (a :: l).filterMap f = (f a).toList ++ l.filterMap f := by
  cases h : f a <;> simp [List.filterMap_cons, h]

/-- A goroutine's step keeps the invariant when what it does to the shared variables matches the
change of its phase, the slice changing only under `mu`. -/
theorem ScanInv.setPhase {ts : List String} {s : ScanState} {g : ℕ} {r : Goroutine} {p : Phase}
    {L : Bool} {D : List DeviceRow} {S W : ℕ} (hi : ScanInv ts s)
    (hg : s.goroutines[g]? = some r) (hrun : r.phase.running = true)
    (hmu : (if L then 1 else 0) + (if r.phase.holdsMu then 1 else 0) =
      (if s.locked then 1 else 0) + (if p.holdsMu then 1 else 0))
    (hsem : S + (if r.phase.holdsSlot then 1 else 0) = s.sem + (if p.holdsSlot then 1 else 0))
    (hsem_le : S ≤ s.sem)
    (hwg : W + (if r.phase.running then 1 else 0) = s.wg + (if p.running then 1 else 0))
    (hdev : (D ++ r.recorded.toList).Perm (s.devices ++ (Goroutine.recorded ⟨r.targetIP, p⟩).toList))
    (hsnap : ∀ snap, p = .write snap → snap = D)
    (hkeep : D = s.devices ∨ r.phase.holdsMu = true) :
    ScanInv ts ({ s with locked := L, devices := D, sem := S, wg := W }.setPhase g r p) := by
  obtain ⟨pre, post, hl, hset⟩ := exists_set_eq_append hg ⟨r.targetIP, p⟩
  obtain ⟨htargets, hmutex, hsnap0, hdevices, hsem0, hsemle0, hwg0, hret⟩ := hi
  rw [hl] at htargets hmutex hsnap0 hdevices hsem0 hwg0
  simp only [List.countP_append, List.countP_cons] at hmutex hsem0 hwg0
  have hother : ∀ r' ∈ pre ++ post, ∀ snap, r'.phase = .write snap → snap = D := by
    intro r' hr' snap hp'
    have hold := hsnap0 r'
      (List.mem_append.mpr ((List.mem_append.mp hr').imp id (List.mem_cons_of_mem _))) snap hp'
    rcases hkeep with hD | hmu'
    · rw [hD, hold]
    · have hpos : 0 < (pre ++ post).countP (·.phase.holdsMu) :=
        List.countP_pos_iff.mpr ⟨r', hr', by rw [hp']; rfl⟩
      simp only [List.countP_append, hmu', if_true] at hpos hmutex
      split_ifs at hmutex <;> omega
  constructor <;> simp only [ScanState.setPhase, hset, List.countP_append, List.countP_cons]
  · simpa using htargets
  · omega
  · intro r' hr' snap hp'
    simp only [List.mem_append, List.mem_cons] at hr'
    rcases hr' with hr' | rfl | hr'
    · exact hother r' (List.mem_append_left _ hr') snap hp'
    · exact hsnap snap hp'
    · exact hother r' (List.mem_append_right _ hr') snap hp'
  · rw [List.filterMap_append, filterMap_cons_toList] at hdevices ⊢
    rw [List.perm_iff_count] at hdevices hdev ⊢
    intro d
    have h1 := hdevices d
    have h2 := hdev d
    simp only [List.count_append] at h1 h2 ⊢
    omega
  · omega
  · exact le_trans hsem_le hsemle0
  · omega
  · intro h
    obtain ⟨hp, hw⟩ := hret h
    refine ⟨hp, ?_⟩
    simp only [hrun, if_true] at hwg0 hwg
    omega

theorem ScanInv.mainStep {ts : List String} {s s' : ScanState} (hi : ScanInv ts s)
    (h : s.mainStep = some s') : ScanInv ts s' := by
  unfold ScanState.mainStep at h
  split at h
  · next t rest hm hp =>
      cases h
      have htargets := hi.targets
      have hwg := hi.wg
      simp only [hm, hp] at htargets hwg
      exact { hi with
        targets := by simpa [MainPc.current] using htargets
        sem := by simpa [MainPc.slot, hm] using hi.sem
        wg := by simp only [MainPc.current, List.length_singleton, List.length_nil] at hwg ⊢; omega
        returned := fun h => nomatch h }
  · next hm hp =>
      split at h
      · next hw =>
          cases h
          have htargets := hi.targets
          rw [hm] at htargets
          exact { hi with
            targets := htargets
            sem := by simpa [MainPc.slot, hm] using hi.sem
            wg := by simpa [MainPc.current, hm] using hi.wg
            returned := fun _ => ⟨hp, hw⟩ }
      · cases h
  · next t hm =>
      split at h
      · next hlt =>
          cases h
          have hsem := hi.sem
          rw [hm] at hsem
          exact { hi with
            targets := by simpa [MainPc.current, hm] using hi.targets
            sem := by simp only [MainPc.slot] at hsem ⊢; omega
            sem_le := hlt
            wg := by simpa [MainPc.current, hm] using hi.wg
            returned := fun h => nomatch h }
      · cases h
  · next t hm =>
      cases h
      have htargets := hi.targets
      have hsem := hi.sem
      have hwg := hi.wg
      rw [hm] at htargets hsem hwg
      exact { hi with
        targets := by simpa [MainPc.current] using htargets
        mutex := by simpa [Phase.holdsMu] using hi.mutex
        snapshot := by
          intro r hr snap hp
          rcases List.mem_append.mp hr with hr | hr
          · exact hi.snapshot r hr snap hp
          · rw [List.mem_singleton.mp hr] at hp; cases hp
        devices := by simpa [Goroutine.recorded, Phase.appended] using hi.devices
        sem := by
          simp only [MainPc.slot, List.countP_append, List.countP_cons, List.countP_nil,
            Phase.holdsSlot, if_true] at hsem ⊢
          omega
        wg := by
          simp only [MainPc.current, List.countP_append, List.countP_cons, List.countP_nil,
            Phase.running, if_true, List.length_singleton, List.length_nil] at hwg ⊢
          omega
        returned := fun h => nomatch h }
  · cases h

/-- A goroutine inside the critical section means `mu` is held. -/
theorem ScanInv.locked_of_holdsMu {ts : List String} {s : ScanState} {r : Goroutine}
    (hi : ScanInv ts s) (hr : r ∈ s.goroutines) (hmu : r.phase.holdsMu = true) :
    s.locked = true := by
  have hpos : 0 < s.goroutines.countP (·.phase.holdsMu) := List.countP_pos_iff.mpr ⟨r, hr, hmu⟩
  have hm := hi.mutex
  split_ifs at hm with hl
  · exact hl
  · omega

theorem ScanInv.pingStep {ts : List String} {s s' : ScanState} {g : ℕ} {alive : Bool}
    (hi : ScanInv ts s) (h : s.pingStep g alive = some s') : ScanInv ts s' := by
  unfold ScanState.pingStep at h
  split at h
  · next r hg =>
      split at h
      · next hp =>
          cases h
          cases alive <;>
            exact hi.setPhase (L := s.locked) (D := s.devices) (S := s.sem) (W := s.wg) hg
              (by rw [hp]; rfl) (by rw [hp]; rfl) (by rw [hp]; rfl) le_rfl (by rw [hp]; rfl)
              (by simp [Goroutine.recorded, hp, Phase.appended]) (fun _ h => nomatch h) (.inl rfl)
      · cases h
  · cases h

theorem ScanInv.runStep {ts : List String} {s s' : ScanState} {g : ℕ} (hi : ScanInv ts s)
    (h : s.runStep g = some s') : ScanInv ts s' := by
  unfold ScanState.runStep at h
  split at h
  · cases h
  · next r hg =>
      have hmem := List.getElem?_mem hg
      split at h
      · next hp =>
          split at h
          · cases h
          · next hl =>
              cases h
              exact hi.setPhase hg (by rw [hp]; rfl) (by simp [hp, hl, Phase.holdsMu])
                (by rw [hp]; rfl) le_rfl (by rw [hp]; rfl)
                (by simp [Goroutine.recorded, hp, Phase.appended]) (fun _ h => nomatch h) (.inl rfl)
      · next hp =>
          cases h
          exact hi.setPhase (L := s.locked) (D := s.devices) (S := s.sem) (W := s.wg) hg
            (by rw [hp]; rfl) (by rw [hp]; rfl) (by rw [hp]; rfl) le_rfl (by rw [hp]; rfl)
            (by simp [Goroutine.recorded, hp, Phase.appended])
            (fun _ h => (Phase.write.inj h).symm) (.inl rfl)
      · next snap hp =>
          cases h
          have hsnap := hi.snapshot r hmem snap hp
          exact hi.setPhase (L := s.locked) (S := s.sem) (W := s.wg) hg
            (by rw [hp]; rfl) (by rw [hp]; rfl) (by rw [hp]; rfl) le_rfl (by rw [hp]; rfl)
            (by simp [Goroutine.recorded, hp, Phase.appended, hsnap]) (fun _ h => nomatch h)
            (.inr (by rw [hp]; rfl))
      · next hp =>
          cases h
          have hl := hi.locked_of_holdsMu hmem (by rw [hp]; rfl)
          exact hi.setPhase (D := s.devices) (S := s.sem) (W := s.wg) hg
            (by rw [hp]; rfl) (by simp [hp, hl, Phase.holdsMu]) (by rw [hp]; rfl) le_rfl
            (by rw [hp]; rfl) (by simp [Goroutine.recorded, hp, Phase.appended])
            (fun _ h => nomatch h) (.inl rfl)
      · next alive hp =>
          split at h
          · next hpos =>
              cases h
              exact hi.setPhase (L := s.locked) (D := s.devices) (W := s.wg) hg
                (by rw [hp]; rfl) (by rw [hp]; rfl) (by simp [hp, Phase.holdsSlot]; omega)
                (Nat.sub_le _ _) (by rw [hp]; rfl) (by simp [Goroutine.recorded, hp, Phase.appended])
                (fun _ h => nomatch h) (.inl rfl)
          · cases h
      · next alive hp =>
          split at h
          · next hpos =>
              cases h
              exact hi.setPhase (L := s.locked) (D := s.devices) (S := s.sem) hg
                (by rw [hp]; rfl) (by rw [hp]; rfl) (by rw [hp]; rfl) le_rfl
                (by simp [hp, Phase.running]; omega) (by simp [Goroutine.recorded, hp, Phase.appended])
                (fun _ h => nomatch h) (.inl rfl)
          · cases h
      · cases h
      · cases h

theorem ScanInv.step {ts : List String} {s s' : ScanState} {a : ScanAct} (hi : ScanInv ts s)
    (h : s.step a = some s') : ScanInv ts s' := by
  cases a with
  | main => exact hi.mainStep h
  | ping g alive => exact hi.pingStep h
  | run g => exact hi.runStep h

/-- The invariant holds after every schedule. -/
theorem ScanInv.run {ts : List String} {s s' : ScanState} {acts : List ScanAct} (hi : ScanInv ts s)
    (h : s.run acts = some s') : ScanInv ts s' := by
  induction acts generalizing s with
  | nil => cases h; exact hi
  | cons a acts ih =>
      obtain ⟨s₁, h₁, h₂⟩ := Option.bind_eq_some.mp h
      exact ih (hi.step h₁) h₂

/-! ## Bounds -/

theorem Phase.running_of_holdsSlot {p : Phase} (h : p.holdsSlot = true) : p.running = true := by
  cases p <;> first | rfl | cases h

theorem Phase.running_of_holdsMu {p : Phase} (h : p.holdsMu = true) : p.running = true := by
  cases p <;> first | rfl | cases h

/-- At most one goroutine is between `mu.Lock()` and `mu.Unlock()`. -/
theorem ScanInv.countP_holdsMu_le {ts : List String} {s : ScanState} (hi : ScanInv ts s) :
    s.goroutines.countP (·.phase.holdsMu) ≤ 1 := by
  rw [hi.mutex]; split_ifs <;> omega

/-- At most `cap(sem)` goroutines hold a slot of `sem`. -/
theorem ScanInv.countP_holdsSlot_le {ts : List String} {s : ScanState} (hi : ScanInv ts s) :
    s.goroutines.countP (·.phase.holdsSlot) ≤ semCapacity := by
  have := hi.sem; have := hi.sem_le; omega

/-! ## Progress -/

/-- A goroutine that has not returned can take a step, unless it waits for `mu` while `mu` is
held. -/
theorem ScanInv.exists_step_of_getElem? {ts : List String} {s : ScanState} {g : ℕ} {r : Goroutine}
    (hi : ScanInv ts s) (hg : s.goroutines[g]? = some r) (hrun : r.phase.running = true)
    (hlock : r.phase = .lock → s.locked = false) : ∃ a s', s.step a = some s' := by
  have hmem := List.getElem?_mem hg
  cases hp : r.phase with
  | ping => exact ⟨.ping g true, by simp [ScanState.step, ScanState.pingStep, hg, hp]⟩
  | lock => exact ⟨.run g, by simp [ScanState.step, ScanState.runStep, hg, hp, hlock hp]⟩
  | read | write _ | unlock => exact ⟨.run g, by simp [ScanState.step, ScanState.runStep, hg, hp]⟩
  | release alive =>
      have hpos : 0 < s.goroutines.countP (·.phase.holdsSlot) :=
        List.countP_pos_iff.mpr ⟨r, hmem, by rw [hp]; rfl⟩
      have hsem : 0 < s.sem := by rw [hi.sem]; omega
      exact ⟨.run g, by simp [ScanState.step, ScanState.runStep, hg, hp, hsem]⟩
  | done alive =>
      have hpos : 0 < s.goroutines.countP (·.phase.running) :=
        List.countP_pos_iff.mpr ⟨r, hmem, by rw [hp]; rfl⟩
      have hwg : 0 < s.wg := by rw [hi.wg]; omega
      exact ⟨.run g, by simp [ScanState.step, ScanState.runStep, hg, hp, hwg]⟩
  | exited alive => rw [hp] at hrun; cases hrun

/-- While a goroutine has not returned, some goroutine can take a step: the holder of `mu` when it
is held, any unreturned one otherwise. -/
theorem ScanInv.exists_goroutine_step {ts : List String} {s : ScanState} (hi : ScanInv ts s)
    (h : 0 < s.goroutines.countP (·.phase.running)) : ∃ a s', s.step a = some s' := by
  by_cases hl : s.locked = true
  · have hm := hi.mutex
    rw [if_pos hl] at hm
    obtain ⟨r, hr, hmu⟩ := List.countP_pos_iff.mp (by omega : 0 < s.goroutines.countP (·.phase.holdsMu))
    obtain ⟨g, hg⟩ := List.mem_iff_getElem?.mp hr
    exact hi.exists_step_of_getElem? hg (Phase.running_of_holdsMu hmu)
      fun hp => by rw [hp] at hmu; cases hmu
  · obtain ⟨r, hr, hrun⟩ := List.countP_pos_iff.mp h
    obtain ⟨g, hg⟩ := List.mem_iff_getElem?.mp hr
    exact hi.exists_step_of_getElem? hg hrun fun _ => by simpa using hl

/-- No reachable state deadlocks: until `ScanSubnet` returns, some action can be taken. -/
theorem ScanInv.exists_step {ts : List String} {s : ScanState} (hi : ScanInv ts s)
    (h : s.main ≠ .returned) : ∃ a s', s.step a = some s' := by
  cases hm : s.main with
  | returned => exact absurd hm h
  | acquired t => exact ⟨.main, by simp [ScanState.step, ScanState.mainStep, hm]⟩
  | added t =>
      by_cases hs : s.sem < semCapacity
      · exact ⟨.main, by simp [ScanState.step, ScanState.mainStep, hm, hs]⟩
      · refine hi.exists_goroutine_step (lt_of_lt_of_le ?_
          (List.countP_mono_left fun r _ => Phase.running_of_holdsSlot))
        have hsem := hi.sem
        rw [hm] at hsem
        simp only [MainPc.slot, semCapacity] at hsem hs
        omega
  | top =>
      cases hp : s.pending with
      | cons t rest => exact ⟨.main, by simp [ScanState.step, ScanState.mainStep, hm, hp]⟩
      | nil =>
          by_cases hw : s.wg = 0
          · exact ⟨.main, by simp [ScanState.step, ScanState.mainStep, hm, hp, hw]⟩
          · refine hi.exists_goroutine_step ?_
            have hwg := hi.wg
            rw [hm] at hwg
            simp only [MainPc.current, List.length_nil] at hwg
            omega

/-! ## Termination -/

namespace ScanState

theorem weight_lt_of_setPhase {s : ScanState} {g : ℕ} {r : Goroutine} {p : Phase} {L : Bool}
    {D : List DeviceRow} {S W : ℕ} (hg : s.goroutines[g]? = some r)
    (hlt : p.weight < r.phase.weight) :
    ({ s with locked := L, devices := D, sem := S, wg := W }.setPhase g r p).weight < s.weight := by
  obtain ⟨pre, post, hl, hset⟩ := exists_set_eq_append hg ⟨r.targetIP, p⟩
  simp only [weight, setPhase]
  rw [hset, hl]
  simp only [List.map_append, List.map_cons, List.sum_append, List.sum_cons]
  omega

theorem weight_step {s s' : ScanState} {a : ScanAct} (h : s.step a = some s') :
    s'.weight < s.weight := by
  cases a with
  | main =>
      simp only [step, mainStep] at h
      split at h <;> (try split at h) <;> cases h <;>
        simp [weight, MainPc.weight, Phase.weight, *] <;> omega
  | ping g alive =>
      simp only [ScanState.step, pingStep] at h
      split at h
      · next r hg =>
          split at h
          · cases h
            exact weight_lt_of_setPhase (L := s.locked) (D := s.devices) (S := s.sem) (W := s.wg)
              hg (by cases alive <;> simp [Phase.weight, *])
          · cases h
      · cases h
  | run g =>
      simp only [step, runStep] at h
      split at h
      · cases h
      · next r hg =>
          split at h <;> (try split at h) <;> cases h <;>
            exact weight_lt_of_setPhase hg (by simp [Phase.weight, *])

/-- Every action of a schedule lowers the weight, so a schedule has at most as many actions as the
weight of its first state. -/
theorem length_add_weight_le {s s' : ScanState} {acts : List ScanAct} (h : s.run acts = some s') :
    acts.length + s'.weight ≤ s.weight := by
  induction acts generalizing s with
  | nil => cases h; simp
  | cons a acts ih =>
      obtain ⟨s₁, h₁, h₂⟩ := Option.bind_eq_some.mp h
      have := ih h₂
      have := weight_step h₁
      simp only [List.length_cons]
      omega

end ScanState

/-- Every schedule of a scan of `n` addresses has at most `10 * n + 1` actions. -/
theorem length_le_of_run {targets : List String} {acts : List ScanAct} {s : ScanState}
    (h : (ScanState.start targets).run acts = some s) : acts.length ≤ 10 * targets.length + 1 := by
  have := ScanState.length_add_weight_le h
  simp only [ScanState.weight, ScanState.start, MainPc.weight, List.map_nil, List.sum_nil] at this
  omega

/-! ## What `ScanSubnet` returns -/

/-- When `ScanSubnet` returns, every goroutine has returned, one was started for each address in
the loop's order, and `devices` holds the devices they appended. -/
theorem ScanInv.returned_devices {ts : List String} {s : ScanState} (hi : ScanInv ts s)
    (h : s.main = .returned) :
    (∀ r ∈ s.goroutines, r.phase.running = false) ∧ s.goroutines.map (·.targetIP) = ts ∧
      s.devices.Perm (s.goroutines.filterMap Goroutine.recorded) := by
  obtain ⟨hp, hw⟩ := hi.returned h
  have hwg := hi.wg
  have htargets := hi.targets
  rw [h] at hwg htargets
  simp only [MainPc.current, List.length_nil, hp, List.append_nil] at hwg htargets
  have hnone : s.goroutines.countP (·.phase.running) = 0 := by omega
  exact ⟨fun r hr => by simpa using List.countP_eq_zero.mp hnone r hr, htargets, hi.devices⟩

/-- The appended devices, read off the addresses and the goroutines' answers. -/
theorem filterMap_recorded_eq {gs : List Goroutine} {ips : List IP}
    (h : gs.map (·.targetIP) = ips.map IP.string) :
    gs.filterMap Goroutine.recorded =
      ((ips.zip (gs.map (·.phase.appended))).filter (·.2)).map fun p => discoveredDevice p.1.string := by
  induction gs generalizing ips with
  | nil => simp
  | cons r gs ih =>
      cases ips with
      | nil => cases h
      | cons ip ips =>
          obtain ⟨h1, h2⟩ := List.cons.inj h
          cases hr : r.phase.appended <;>
            simp [filterMap_cons_toList, Goroutine.recorded, hr, ih h2, h1]

/-- When the loop has returned, `devices` holds, in some order, one device for each address whose
goroutine appended, and no other device. -/
theorem ScanInv.devices_perm {visited : List IP} {s : ScanState}
    (hi : ScanInv (visited.map IP.string) s) (hret : s.main = .returned) :
    ∃ answers : List Bool, answers.length = visited.length ∧
      s.devices.Perm (((visited.zip answers).filter (·.2)).map fun p => discoveredDevice p.1.string) := by
  obtain ⟨-, htargets, hdev⟩ := hi.returned_devices hret
  refine ⟨s.goroutines.map (·.phase.appended), ?_, ?_⟩
  · simpa using congrArg List.length htargets
  · rwa [← filterMap_recorded_eq htargets]

/-! ## The answers of the pings -/

/-- The answer an action gives goroutine `g`'s ping, if it is one. -/
def ScanAct.answer? (g : ℕ) : ScanAct → Option Bool
  | .ping g' alive => if g' = g then some alive else none
  | _ => none

/-- The answer a schedule gives goroutine `g`'s ping: that of its first `ping g` action, the only
one a run can take. -/
def pingAnswer? (acts : List ScanAct) (g : ℕ) : Option Bool := acts.findSome? (·.answer? g)

/-- What a goroutine's ping answered, once it has. -/
def Phase.answer : Phase → Option Bool
  | .ping => none
  | .lock | .read | .write _ | .unlock => some true
  | .release alive | .done alive | .exited alive => some alive

theorem Phase.answer_of_running {p : Phase} (h : p.running = false) : p.answer = some p.appended := by
  cases p <;> simp_all [Phase.running, Phase.answer, Phase.appended]

theorem pingAnswer?_append_singleton (acts : List ScanAct) (a : ScanAct) (g : ℕ) :
    pingAnswer? (acts ++ [a]) g = (pingAnswer? acts g).or (a.answer? g) := by
  cases h : a.answer? g <;> simp [pingAnswer?, List.findSome?_append, h]

/-- The answers the goroutines of a list have had. -/
def answers (gs : List Goroutine) (g : ℕ) : Option Bool := (gs[g]?).bind (·.phase.answer)

theorem answers_set {gs : List Goroutine} {g : ℕ} {r : Goroutine} (hg : gs[g]? = some r)
    (p : Phase) (j : ℕ) :
    answers (gs.set g ⟨r.targetIP, p⟩) j = if g = j then p.answer else answers gs j := by
  by_cases hgj : g = j
  · subst hgj
    simp [answers, List.getElem?_set, (List.getElem?_eq_some_iff.mp hg).1]
  · simp [answers, List.getElem?_set, hgj]

theorem answers_append_ping (gs : List Goroutine) (t : String) :
    answers (gs ++ [⟨t, .ping⟩]) = answers gs := funext fun g => by
  rcases Nat.lt_or_ge g gs.length with hlt | hge
  · rw [answers, List.getElem?_append_left hlt]; rfl
  · rw [answers, answers, List.getElem?_append_right hge, List.getElem?_eq_none hge]
    cases g - gs.length <;> rfl

namespace ScanState

/-- Every goroutine's phase agrees with the answer the schedule `acts` gave its ping. -/
def Answered (acts : List ScanAct) (s : ScanState) : Prop :=
  answers s.goroutines = pingAnswer? acts

theorem Answered.start (targets : List String) : (ScanState.start targets).Answered [] :=
  funext fun _ => by simp [answers, pingAnswer?, ScanState.start]

/-- The main goroutine only starts goroutines, each at its ping. -/
theorem mainStep_goroutines {s s' : ScanState} (h : s.mainStep = some s') :
    s'.goroutines = s.goroutines ∨ ∃ t, s'.goroutines = s.goroutines ++ [⟨t, .ping⟩] := by
  unfold mainStep at h
  split at h <;> (try split at h) <;> cases h
  all_goals first | exact .inl rfl | exact .inr ⟨_, rfl⟩

/-- A ping moves its goroutine out of `ping`, to the phase its answer picks. -/
theorem pingStep_goroutines {s s' : ScanState} {g : ℕ} {alive : Bool}
    (h : s.pingStep g alive = some s') :
    ∃ r, s.goroutines[g]? = some r ∧ r.phase = .ping ∧
      s'.goroutines = s.goroutines.set g ⟨r.targetIP, if alive then .lock else .release false⟩ := by
  unfold pingStep at h
  split at h <;> (try split at h) <;> cases h
  exact ⟨_, ‹_›, ‹_›, rfl⟩

/-- A goroutine's statement after its ping keeps what the ping answered. -/
theorem runStep_goroutines {s s' : ScanState} {g : ℕ} (h : s.runStep g = some s') :
    ∃ r p, s.goroutines[g]? = some r ∧ p.answer = r.phase.answer ∧
      s'.goroutines = s.goroutines.set g ⟨r.targetIP, p⟩ := by
  unfold runStep at h
  split at h
  · cases h
  · next r hg =>
      split at h <;> (try split at h) <;> cases h <;>
        exact ⟨r, _, hg, by rw [‹r.phase = _›]; rfl, rfl⟩

theorem Answered.step {acts : List ScanAct} {s s' : ScanState} {a : ScanAct}
    (hs : s.Answered acts) (h : s.step a = some s') : s'.Answered (acts ++ [a]) := by
  funext j
  rw [pingAnswer?_append_singleton, ← congrFun hs j]
  cases a with
  | main =>
      rcases mainStep_goroutines h with hgs | ⟨t, hgs⟩ <;>
        simp only [Answered, hgs, answers_append_ping, ScanAct.answer?, Option.or_none]
  | ping g alive =>
      obtain ⟨r, hg, hp, hgs⟩ := pingStep_goroutines h
      simp only [hgs, answers_set hg, ScanAct.answer?]
      by_cases hgj : g = j
      · subst hgj
        cases alive <;> simp [answers, hg, hp, Phase.answer]
      · simp only [hgj, if_false, Option.or_none]
  | run g =>
      obtain ⟨r, p, hg, hp, hgs⟩ := runStep_goroutines h
      simp only [hgs, answers_set hg, ScanAct.answer?, Option.or_none]
      split_ifs with hgj
      · subst hgj
        simp only [answers, hg, Option.some_bind, hp]
      · rfl

/-- After every schedule, the goroutines' phases agree with the answers it gave their pings. -/
theorem Answered.run {pre acts : List ScanAct} {s s' : ScanState} (hs : s.Answered pre)
    (h : s.run acts = some s') : s'.Answered (pre ++ acts) := by
  induction acts generalizing pre s with
  | nil => cases h; simpa using hs
  | cons a acts ih =>
      obtain ⟨s₁, h₁, h₂⟩ := Option.bind_eq_some.mp h
      simpa using ih (hs.step h₁) h₂

end ScanState

/-- Once every goroutine has returned, each has appended exactly when the schedule's answer to its
ping was yes, and every ping was answered. -/
theorem appended_eq_pingAnswer? {acts : List ScanAct} {s : ScanState} (ha : s.Answered acts)
    (hrun : ∀ r ∈ s.goroutines, r.phase.running = false) :
    s.goroutines.map (·.phase.appended) =
      (List.range s.goroutines.length).map (fun g => (pingAnswer? acts g).getD false) ∧
    ∀ g < s.goroutines.length, (pingAnswer? acts g).isSome := by
  have hans : ∀ g (hg : g < s.goroutines.length),
      pingAnswer? acts g = some s.goroutines[g].phase.appended := fun g hg => by
    rw [← congrFun ha g, answers, List.getElem?_eq_getElem hg, Option.some_bind]
    exact Phase.answer_of_running (hrun _ (List.getElem_mem hg))
  refine ⟨List.ext_getElem (by simp) fun g h₁ h₂ => ?_, fun g hg => by simp [hans g hg]⟩
  simp only [List.getElem_map, List.getElem_range, hans g (by simpa using h₁), Option.getD_some]

/-- `ScanSubnet` on an accepted CIDR under the schedule `acts`: the addresses its loop visits, with
room for `fuel` visits, as strings, and the run from `start` on them. -/
def scanSubnetRun (c : CIDR) (fuel : ℕ) (acts : List ScanAct) : Option ScanState :=
  (scanSubnet c fuel).bind fun visited => (ScanState.start (visited.map IP.string)).run acts

/-- `10.0.0.4/31`, a network of two addresses. -/
def pairNet : CIDR := ⟨.v4 [10, 0, 0, 4] rfl, 31, by decide⟩

/-- A schedule on `pairNet` that interleaves the first goroutine with the loop: `10.0.0.4` answers
its ping and `10.0.0.5` does not. -/
def pairSchedule : List ScanAct :=
  [.main, .main, .main, .ping 0 true, .run 0, .main, .run 0, .main, .main, .ping 1 false, .run 0,
    .run 0, .run 1, .run 0, .run 0, .run 1, .main]

example : ((scanSubnetRun pairNet 2 pairSchedule).map fun s => s.devices.map (·.ipAddress)) =
    some ["10.0.0.4"] := by decide

example : (List.range 2).map (pingAnswer? pairSchedule) = [some true, some false] := by decide

theorem exists_of_scanSubnetRun {c : CIDR} {fuel : ℕ} {acts : List ScanAct} {s : ScanState}
    (h : scanSubnetRun c fuel acts = some s) :
    ∃ visited, scanSubnet c fuel = some visited ∧
      ScanInv (visited.map IP.string) s ∧ acts.length ≤ 10 * visited.length + 1 := by
  obtain ⟨visited, hv, hrun⟩ := Option.bind_eq_some.mp h
  exact ⟨visited, hv, (ScanInv.start _).run hrun, by simpa using length_le_of_run hrun⟩

/-- Whatever the schedule: when `ScanSubnet` returns, the schedule has answered the ping of the
goroutine of every visited address, and `devices` holds, in some order, one device for each visited
address whose ping the schedule answered yes, and no other device. -/
theorem scanSubnetRun_devices {c : CIDR} {fuel : ℕ} {acts : List ScanAct} {s : ScanState}
    (h : scanSubnetRun c fuel acts = some s) (hret : s.main = .returned) :
    ∃ visited, scanSubnet c fuel = some visited ∧
      (∀ g < visited.length, (pingAnswer? acts g).isSome) ∧
      s.devices.Perm (((visited.zip ((List.range visited.length).map fun g =>
        (pingAnswer? acts g).getD false)).filter (·.2)).map fun p => discoveredDevice p.1.string) := by
  obtain ⟨visited, hv, hrun⟩ := Option.bind_eq_some.mp h
  obtain ⟨hnr, htargets, hdev⟩ := ((ScanInv.start _).run hrun).returned_devices hret
  have hlen : s.goroutines.length = visited.length := by simpa using congrArg List.length htargets
  obtain ⟨hans, hsome⟩ := appended_eq_pingAnswer? (by simpa using (ScanState.Answered.start _).run hrun) hnr
  refine ⟨visited, hv, hlen ▸ hsome, ?_⟩
  rw [← hlen, ← hans, ← filterMap_recorded_eq htargets]
  exact hdev

theorem scanSubnetRun_devices_pair : ∃ s, scanSubnetRun pairNet 2 pairSchedule = some s ∧
    s.main = .returned ∧ ∃ visited, scanSubnet pairNet 2 = some visited ∧
      (∀ g < visited.length, (pingAnswer? pairSchedule g).isSome) ∧
      s.devices.Perm (((visited.zip ((List.range visited.length).map fun g =>
        (pingAnswer? pairSchedule g).getD false)).filter (·.2)).map
          fun p => discoveredDevice p.1.string) :=
  ⟨_, rfl, rfl, @scanSubnetRun_devices pairNet 2 pairSchedule _ rfl rfl⟩

/-- Every schedule of `ScanSubnet` on an accepted CIDR whose loop ends is finite: it has at most
`10 * n + 1` actions for the `n` visited addresses, and when no action can extend it,
`ScanSubnet` has returned. -/
theorem scanSubnetRun_terminates {c : CIDR} {fuel : ℕ} {acts : List ScanAct} {s : ScanState}
    (h : scanSubnetRun c fuel acts = some s) :
    ∃ visited, scanSubnet c fuel = some visited ∧ acts.length ≤ 10 * visited.length + 1 ∧
      ((∀ a, s.step a = none) → s.main = .returned) := by
  obtain ⟨visited, hv, hi, hlen⟩ := exists_of_scanSubnetRun h
  refine ⟨visited, hv, hlen, fun hstuck => ?_⟩
  by_contra hne
  obtain ⟨a, s', hs'⟩ := hi.exists_step hne
  rw [hstuck a] at hs'
  cases hs'

theorem scanSubnetRun_terminates_pair : ∃ s, scanSubnetRun pairNet 2 pairSchedule = some s ∧
    ∃ visited, scanSubnet pairNet 2 = some visited ∧ pairSchedule.length ≤ 10 * visited.length + 1 ∧
      ((∀ a, s.step a = none) → s.main = .returned) :=
  ⟨_, rfl, @scanSubnetRun_terminates pairNet 2 pairSchedule _ rfl⟩

/-- In every state of every schedule of `ScanSubnet`, at most one goroutine is between `mu.Lock()`
and `mu.Unlock()`, and at most 50 hold a slot of `sem`. -/
theorem scanSubnetRun_bounds {c : CIDR} {fuel : ℕ} {acts : List ScanAct} {s : ScanState}
    (h : scanSubnetRun c fuel acts = some s) :
    s.goroutines.countP (·.phase.holdsMu) ≤ 1 ∧
      s.goroutines.countP (·.phase.holdsSlot) ≤ semCapacity := by
  obtain ⟨visited, -, hi, -⟩ := exists_of_scanSubnetRun h
  exact ⟨hi.countP_holdsMu_le, hi.countP_holdsSlot_le⟩

theorem scanSubnetRun_bounds_pair : ∃ s, scanSubnetRun pairNet 2 pairSchedule = some s ∧
    s.goroutines.countP (·.phase.holdsMu) ≤ 1 ∧
      s.goroutines.countP (·.phase.holdsSlot) ≤ semCapacity :=
  ⟨_, rfl, @scanSubnetRun_bounds pairNet 2 pairSchedule _ rfl⟩

/-- On an IPv4 network `ScanSubnet` never returns two devices with the same address: the loop
visits each address once, dotted decimal determines the address, and no append is lost or made
twice. -/
theorem scanSubnetRun_v4_nodup {c : CIDR} (h4 : c.addr.is4 = true) {fuel : ℕ}
    {acts : List ScanAct} {s : ScanState} (h : scanSubnetRun c fuel acts = some s)
    (hret : s.main = .returned) : (s.devices.map (·.ipAddress)).Nodup := by
  obtain ⟨visited, hv, hi, -⟩ := exists_of_scanSubnetRun h
  obtain ⟨answers, hlen, hperm⟩ := hi.devices_perm hret
  have hones : 0 < c.ones := Nat.pos_of_ne_zero fun h0 => by
    rw [scanSubnet_v4_zero c h4 h0 fuel] at hv; cases hv
  have hlen4 : c.addr.ipLen = 4 := by cases ha : c.addr <;> rw [ha] at h4 <;> first | rfl | cases h4
  obtain ⟨visited', hv', hvals, hlens⟩ := scanSubnet_network c (fun _ => hones)
    (fun h => by rw [h4] at h; cases h) (fuel + 2 ^ c.hostBits) (Nat.le_add_left _ _)
  obtain rfl : visited' = visited := Option.some.inj (hv'.symm.trans (scanLoop_add _ hv _))
  have hnodup : (visited'.map IP.string).Nodup := by
    refine List.Nodup.map_on (fun a ha b hb hab => string_inj_of_length_four
      ((hlens a ha).trans hlen4) ((hlens b hb).trans hlen4) hab) (List.Nodup.of_map ipValue ?_)
    rw [hvals]
    exact (List.nodup_range _).map fun _ _ => Nat.add_left_cancel
  have hsub : List.Sublist (((visited'.zip answers).filter (·.2)).map fun p => p.1.string)
      (visited'.map IP.string) := by
    have e : (visited'.zip answers).map (fun p => p.1.string) = visited'.map IP.string := by
      conv_rhs => rw [← List.map_fst_zip visited' answers hlen.ge]
      rw [List.map_map]; rfl
    exact e ▸ (List.filter_sublist (p := (·.2)) (visited'.zip answers)).map fun p => p.1.string
  have hmap := hperm.map (·.ipAddress)
  rw [List.map_map] at hmap
  exact hmap.nodup_iff.mpr (hnodup.sublist hsub)

theorem scanSubnetRun_v4_nodup_pair : ∃ s, scanSubnetRun pairNet 2 pairSchedule = some s ∧
    s.main = .returned ∧ (s.devices.map (·.ipAddress)).Nodup :=
  ⟨_, rfl, rfl, @scanSubnetRun_v4_nodup pairNet rfl 2 pairSchedule _ rfl rfl⟩

end GoNms
