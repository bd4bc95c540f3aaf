import GoNms.Zte.Walk

set_option autoImplicit false

/-! # `GetSystemMetrics`

The scalar GET and the four card-table walks of the system method. Unlike the table methods it
drops every walk error: once the GET has succeeded it returns a record, whatever its walks deliver
or fail with (`getSystemMetrics_ignores_walk_errors`). Each card column is reduced by
`if val > field { field = val }` from the zero record, so a field ends at the largest of zero and
the column's values, which is the column's maximum only when that is not negative.
`MemoryUsedKB` is then computed in `float64`; it is the floor of the exact quotient while the
product stays below `2^53`, and can round up past it above. -/

namespace GoNms.Zte

open GoNms.Go GoNms.Snmp

/-- `OLTSystemMetrics` (its `Timestamp` is left out). A Go string holds bytes; the two strings
the method sets are the bytes of `OctetString` values and are kept as bytes. -/
structure OLTSystemMetrics where
  deviceID : String
  sysDescr : List UInt8
  sysName : List UInt8
  uptimeSeconds : BitVec 64
  cpuUsagePercent : GoFloat
  memoryTotalKB : BitVec 64
  memoryUsedKB : BitVec 64
  memoryUsagePercent : GoFloat
  temperatureCelsius : GoFloat
  deriving DecidableEq

/-- `&OLTSystemMetrics{DeviceID: c.device.ID, Timestamp: …}`: every other field zero. -/
def zeroMetrics (deviceID : String) : OLTSystemMetrics :=
  { deviceID, sysDescr := [], sysName := [], uptimeSeconds := 0, cpuUsagePercent := 0,
    memoryTotalKB := 0, memoryUsedKB := 0, memoryUsagePercent := 0, temperatureCelsius := 0 }

/-- The body of the loop over the GET packet's variables: the `switch` on the OID without its
leading dot. -/
def readScalar (metrics : OLTSystemMetrics) (pdu : SnmpPDU) : OLTSystemMetrics :=
  let name := trimPrefix pdu.name "."
  if name = OIDSysDescr then
    if pdu.type = .octetString then { metrics with sysDescr := pdu.octets } else metrics
  else if name = OIDSysName then
    if pdu.type = .octetString then { metrics with sysName := pdu.octets } else metrics
  else if name = OIDSysUpTime then
    { metrics with uptimeSeconds := BitVec.sdiv ((pduToUint32 pdu).setWidth 64) 100 }
  else metrics

/-- The card-table callbacks, one per column: `if val > field { field = val }`. -/
def raiseField {α : Type} (gt : α → α → Bool) (get : OLTSystemMetrics → α)
    (set : OLTSystemMetrics → α → OLTSystemMetrics) (val : α) (metrics : OLTSystemMetrics) :
    OLTSystemMetrics :=
  if gt val (get metrics) then set metrics val else metrics

/-- `float64(pduToInt(pdu))`, the value of a CPU, temperature or memory-usage row. -/
def cardValue (pdu : SnmpPDU) : GoFloat := GoFloat.ofInt (pduToInt pdu).toInt

/-- The CPU column's callback. -/
def raiseCPUUsage (pdu : SnmpPDU) : OLTSystemMetrics → OLTSystemMetrics :=
  raiseField (fun a b => GoFloat.lt b a) (·.cpuUsagePercent)
    (fun m v => { m with cpuUsagePercent := v }) (cardValue pdu)

/-- The temperature column's callback. -/
def raiseTemperature (pdu : SnmpPDU) : OLTSystemMetrics → OLTSystemMetrics :=
  raiseField (fun a b => GoFloat.lt b a) (·.temperatureCelsius)
    (fun m v => { m with temperatureCelsius := v }) (cardValue pdu)

/-- The memory-usage column's callback. -/
def raiseMemoryUsage (pdu : SnmpPDU) : OLTSystemMetrics → OLTSystemMetrics :=
  raiseField (fun a b => GoFloat.lt b a) (·.memoryUsagePercent)
    (fun m v => { m with memoryUsagePercent := v }) (cardValue pdu)

/-- The memory-total column's callback. Its rows are in MB: `int64(pduToInt(pdu)) * 1024`, which
wraps around in `int64`. -/
def raiseMemoryTotal (pdu : SnmpPDU) : OLTSystemMetrics → OLTSystemMetrics :=
  raiseField (fun a b => BitVec.slt b a) (·.memoryTotalKB)
    (fun m v => { m with memoryTotalKB := v }) (pduToInt pdu * 1024)

/-- The column map `walkOIDs` of `GetSystemMetrics`. -/
def systemWalkOIDs : GoMap String (SnmpPDU → OLTSystemMetrics → OLTSystemMetrics) :=
  ⟨[(OIDZTECardCPUUsage, raiseCPUUsage), (OIDZTECardTemperature, raiseTemperature),
    (OIDZTECardMemoryUsage, raiseMemoryUsage), (OIDZTECardMemoryTotal, raiseMemoryTotal)],
   by decide⟩

/-- The card-table loop: walk each column in visiting order and apply its callback to every PDU
the walk delivers. A walk's error is dropped, after the PDUs it delivered were applied. -/
def walkIgnoringErrors {M : Type} (session : SnmpSession)
    (order : List (String × (SnmpPDU → M → M))) (metrics : M) : M :=
  order.foldl (fun m c => (session.walk c.1).pdus.foldl (fun m pdu => c.2 pdu m) m) metrics

/-- `if metrics.MemoryTotalKB > 0 && metrics.MemoryUsagePercent > 0 { … }`. -/
def deriveMemoryUsed (metrics : OLTSystemMetrics) : OLTSystemMetrics :=
  if BitVec.slt 0 metrics.memoryTotalKB && GoFloat.lt 0 metrics.memoryUsagePercent then
    let used := GoFloat.ofInt metrics.memoryTotalKB.toInt * metrics.memoryUsagePercent / 100
    { metrics with memoryUsedKB := GoFloat.toInt64 used }
  else metrics

/-- `GetSystemMetrics`, when `range` visits `walkOIDs` in the order `order`. -/
def getSystemMetrics (c : ZTEOLTClient)
    (order : List (String × (SnmpPDU → OLTSystemMetrics → OLTSystemMetrics))) :
    Except String OLTSystemMetrics :=
  match c.snmp.get [OIDSysDescr, OIDSysName, OIDSysUpTime] with
  | .error err => .error ("failed to get system metrics: " ++ err)
  | .ok packet =>
      let metrics := packet.foldl readScalar (zeroMetrics c.device.id)
      .ok (deriveMemoryUsed (walkIgnoringErrors c.snmp order metrics))

/-! ## Frame lemmas -/

/-- The GET loop sets the two strings and the uptime, and nothing else. -/
theorem foldl_readScalar_frame (packet : List SnmpPDU) (m : OLTSystemMetrics) :
    ∃ descr name uptime, packet.foldl readScalar m =
      { m with sysDescr := descr, sysName := name, uptimeSeconds := uptime } := by
  induction packet generalizing m with
  | nil => exact ⟨m.sysDescr, m.sysName, m.uptimeSeconds, rfl⟩
  | cons pdu packet ih =>
      obtain ⟨descr, name, uptime, h⟩ := ih (readScalar m pdu)
      refine ⟨descr, name, uptime, ?_⟩
      rw [List.foldl_cons, h]
      dsimp only [readScalar]
      split_ifs <;> rfl

/-! ## The card-table loop, field by field -/

/-- A fold whose steps outside `p` do nothing is the fold over the elements in `p`. -/
theorem foldl_eq_foldl_filter {β γ : Type} (f : β → γ → β) (p : γ → Bool)
    (hf : ∀ b x, p x = false → f b x = b) (l : List γ) (b : β) :
    l.foldl f b = (l.filter p).foldl f b := by
  induction l generalizing b with
  | nil => rfl
  | cons x l ih =>
      cases hp : p x
      · rw [List.foldl_cons, hf b x hp, ih, List.filter_cons_of_neg (by simp [hp])]
      · rw [List.foldl_cons, ih, List.filter_cons_of_pos hp, List.foldl_cons]

/-- The loop read through one field: when one column updates the field by `g` and every other
column leaves it alone, the field ends as `g` folded over that column's PDUs, whatever the visiting
order. -/
theorem proj_walkIgnoringErrors {M α : Type} (proj : M → α) (g : α → SnmpPDU → α)
    {session : SnmpSession} {cols order : List (String × (SnmpPDU → M → M))}
    (hperm : order.Perm cols) {c : String × (SnmpPDU → M → M)}
    (hc : cols.filter (fun d => d.1 = c.1) = [c])
    (hset : ∀ pdu m, proj (c.2 pdu m) = g (proj m) pdu)
    (hother : ∀ d ∈ cols, d.1 ≠ c.1 → ∀ pdu m, proj (d.2 pdu m) = proj m) (m : M) :
    proj (walkIgnoringErrors session order m) = (session.walk c.1).pdus.foldl g (proj m) := by
  -- the loop seen through `proj`, column by column
  let G : α → String × (SnmpPDU → M → M) → α := fun a d =>
    if d.1 = c.1 then (session.walk c.1).pdus.foldl g a else a
  have hstep : ∀ d ∈ cols, ∀ m,
      proj ((session.walk d.1).pdus.foldl (fun m pdu => d.2 pdu m) m) = G (proj m) d := by
    intro d hd m
    by_cases h : d.1 = c.1
    · have hdc : d = c := by
        have : d ∈ cols.filter (fun d => d.1 = c.1) := List.mem_filter.mpr ⟨hd, by simpa using h⟩
        simpa [hc] using this
      subst hdc
      simp only [G, if_pos rfl]
      exact (List.foldl_hom proj _ g _ m (fun m pdu => (hset pdu m).symm)).symm
    · simp only [G, if_neg h]
      exact (List.foldl_hom proj _ (fun a _ => a) _ m
        (fun m pdu => (hother d hd h pdu m).symm)).symm.trans (List.foldl_fixed _)
  have hloop : ∀ (l : List (String × (SnmpPDU → M → M))) m, (∀ d ∈ l, d ∈ cols) →
      proj (walkIgnoringErrors session l m) = l.foldl G (proj m) := by
    intro l
    induction l with
    | nil => intros; rfl
    | cons d l ih =>
        intro m hl
        have := ih ((session.walk d.1).pdus.foldl (fun m pdu => d.2 pdu m) m)
          (fun e he => hl e (List.mem_cons_of_mem _ he))
        simp only [walkIgnoringErrors, List.foldl_cons] at this ⊢
        rw [this, hstep d (hl d (List.mem_cons_self _ _))]
  -- only the one column moves the field
  have hfilter : order.filter (fun d => d.1 = c.1) = [c] := by
    have := hperm.filter (fun d => decide (d.1 = c.1))
    rwa [hc, List.perm_singleton] at this
  rw [hloop order m (fun d hd => hperm.subset hd),
    foldl_eq_foldl_filter G (fun d => decide (d.1 = c.1))
      (fun a d hd => if_neg (by simpa using hd)), hfilter]
  simp [G]

/-- `if val > field { field = val }` on a `float64` card field, as a step on the field. -/
def raiseFloat (field : GoFloat) (pdu : SnmpPDU) : GoFloat :=
  if GoFloat.lt field (cardValue pdu) then cardValue pdu else field

/-- The same on the `int64` memory-total field. -/
def raiseInt64 (field : BitVec 64) (pdu : SnmpPDU) : BitVec 64 :=
  if BitVec.slt field (pduToInt pdu * 1024) then pduToInt pdu * 1024 else field

/-- What a card callback does: the column's own field is raised to the row's value when that is
larger, and every other field is left alone. -/
theorem systemWalkOIDs_callback {d : String × (SnmpPDU → OLTSystemMetrics → OLTSystemMetrics)}
    (hd : d ∈ systemWalkOIDs.entries) (pdu : SnmpPDU) (m : OLTSystemMetrics) :
    d.2 pdu m = { m with
      cpuUsagePercent :=
        if d.1 = OIDZTECardCPUUsage then raiseFloat m.cpuUsagePercent pdu else m.cpuUsagePercent
      temperatureCelsius := if d.1 = OIDZTECardTemperature
        then raiseFloat m.temperatureCelsius pdu else m.temperatureCelsius
      memoryUsagePercent := if d.1 = OIDZTECardMemoryUsage
        then raiseFloat m.memoryUsagePercent pdu else m.memoryUsagePercent
      memoryTotalKB :=
        if d.1 = OIDZTECardMemoryTotal then raiseInt64 m.memoryTotalKB pdu else m.memoryTotalKB } := by
  simp only [systemWalkOIDs, List.mem_cons, List.mem_singleton, List.not_mem_nil, or_false] at hd
  rcases hd with rfl | rfl | rfl | rfl <;>
    simp [raiseCPUUsage, raiseTemperature, raiseMemoryUsage, raiseMemoryTotal, raiseField,
      raiseFloat, raiseInt64, OIDZTECardCPUUsage, OIDZTECardTemperature, OIDZTECardMemoryUsage,
      OIDZTECardMemoryTotal] <;> split_ifs <;> rfl

/-- The card loop read through the field of one column: it ends as that column's callback, seen
on the field, folded over the column's PDUs, whatever the visiting order. -/
theorem field_walkIgnoringErrors {α : Type} (get : OLTSystemMetrics → α) (g : α → SnmpPDU → α)
    (oid : String) (cb : SnmpPDU → OLTSystemMetrics → OLTSystemMetrics)
    (hc : systemWalkOIDs.entries.filter (fun d => d.1 = oid) = [(oid, cb)])
    (hget : ∀ d ∈ systemWalkOIDs.entries, ∀ pdu m,
      get (d.2 pdu m) = if d.1 = oid then g (get m) pdu else get m)
    {session : SnmpSession} {order : List (String × (SnmpPDU → OLTSystemMetrics → OLTSystemMetrics))}
    (hperm : order.Perm systemWalkOIDs.entries) (m : OLTSystemMetrics) :
    get (walkIgnoringErrors session order m) = (session.walk oid).pdus.foldl g (get m) := by
  have hmem : (oid, cb) ∈ systemWalkOIDs.entries :=
    List.mem_of_mem_filter (by rw [hc]; exact List.mem_singleton_self _)
  exact proj_walkIgnoringErrors get g hperm (c := (oid, cb)) hc
    (fun pdu m => by rw [hget _ hmem pdu m, if_pos rfl])
    (fun d hd h pdu m => by rw [hget d hd pdu m, if_neg h]) m

/-- No card callback touches `MemoryUsedKB`. -/
theorem memoryUsedKB_walkIgnoringErrors (session : SnmpSession)
    (order : List (String × (SnmpPDU → OLTSystemMetrics → OLTSystemMetrics)))
    (hsub : ∀ d ∈ order, d ∈ systemWalkOIDs.entries) (m : OLTSystemMetrics) :
    (walkIgnoringErrors session order m).memoryUsedKB = m.memoryUsedKB := by
  have hcol : ∀ d ∈ systemWalkOIDs.entries, ∀ pdu m, (d.2 pdu m).memoryUsedKB = m.memoryUsedKB :=
    fun d hd pdu m => by rw [systemWalkOIDs_callback hd]
  induction order generalizing m with
  | nil => rfl
  | cons d order ih =>
      simp only [walkIgnoringErrors, List.foldl_cons] at ih ⊢
      rw [ih (fun e he => hsub e (List.mem_cons_of_mem _ he))]
      exact (List.foldl_hom (·.memoryUsedKB) _ (fun a _ => a) _ m
        (fun m pdu => (hcol d (hsub d (List.mem_cons_self _ _)) pdu m).symm)).symm.trans
          (List.foldl_fixed _)

/-! ## Running maxima -/

/-- A running maximum of Go integers stays in Go's range. -/
theorem foldl_max_toInt_mem_range (f : SnmpPDU → BitVec 64) (pdus : List SnmpPDU) {a : ℤ}
    (ha : -2 ^ 63 ≤ a ∧ a < 2 ^ 63) :
    -2 ^ 63 ≤ pdus.foldl (fun a pdu => max a (f pdu).toInt) a ∧
      pdus.foldl (fun a pdu => max a (f pdu).toInt) a < 2 ^ 63 := by
  induction pdus generalizing a with
  | nil => exact ha
  | cons pdu pdus ih =>
      have := toInt_mem_range (f pdu)
      exact ih (a := max a (f pdu).toInt) ⟨by omega, by omega⟩

/-- The `float64` running maximum of Go integers is the `float64` of their running maximum:
conversion is monotone, so comparing converted values picks the converted maximum. -/
theorem foldl_raiseFloat (pdus : List SnmpPDU) {a : ℤ} (ha : -2 ^ 63 ≤ a ∧ a < 2 ^ 63) :
    pdus.foldl raiseFloat (GoFloat.ofInt a) =
      GoFloat.ofInt (pdus.foldl (fun a pdu => max a (pduToInt pdu).toInt) a) := by
  induction pdus generalizing a with
  | nil => rfl
  | cons pdu pdus ih =>
      have hx := toInt_mem_range (pduToInt pdu)
      rw [List.foldl_cons, List.foldl_cons, ← ih ⟨by omega, by omega⟩]
      congr 1
      simp only [raiseFloat, cardValue, GoFloat.ofInt]
      rw [GoFloat.ofRat_raise (GoFloat.abs_intCast_le_maxFinite ha) (GoFloat.abs_toInt_le_maxFinite _),
        Int.cast_max]

theorem toInt_foldl_raiseInt64 (pdus : List SnmpPDU) (v : BitVec 64) :
    (pdus.foldl raiseInt64 v).toInt =
      pdus.foldl (fun a pdu => max a (pduToInt pdu * 1024).toInt) v.toInt :=
  (List.foldl_hom BitVec.toInt raiseInt64 _ pdus v fun v pdu => by
    simp only [raiseInt64, BitVec.slt]
    split <;> simp_all; omega).symm

/-! ## Failure -/

/-- Once the GET has succeeded, walk errors never reach the caller: `GetSystemMetrics` returns a
record, and the same record whatever errors its walks end with (the PDUs a failing walk delivered
before failing are kept). -/
theorem getSystemMetrics_ignores_walk_errors (c : ZTEOLTClient)
    (order : List (String × (SnmpPDU → OLTSystemMetrics → OLTSystemMetrics))) (packet : List SnmpPDU)
    (hget : c.snmp.get [OIDSysDescr, OIDSysName, OIDSysUpTime] = .ok packet)
    (errs : String → Option String) :
    ∃ m, getSystemMetrics c order = .ok m ∧
      getSystemMetrics { c with snmp := { c.snmp with
        walk := fun o => { c.snmp.walk o with err := errs o } } } order = .ok m :=
  ⟨deriveMemoryUsed (walkIgnoringErrors c.snmp order (packet.foldl readScalar
      (zeroMetrics c.device.id))), by simp only [getSystemMetrics, hget],
    by simp only [getSystemMetrics, hget]; rfl⟩

/-- A chassis whose one CPU row is read before the CPU walk times out. -/
def timeoutOLT : ZTEOLTClient :=
  ⟨⟨fun _ => .ok [], fun o => if o = OIDZTECardCPUUsage
      then ⟨[SnmpPDU.ofInt (OIDZTECardCPUUsage ++ ".1") 37], none⟩ else ⟨[], none⟩⟩,
   ⟨"olt-1", "OLT-1", "10.0.0.2", DeviceTypeOLT, ProtocolSNMP, true, none⟩⟩

theorem getSystemMetrics_cpu_walk_timeout :
    timeoutOLT.snmp.get [OIDSysDescr, OIDSysName, OIDSysUpTime] = .ok [] ∧
      ∃ m, getSystemMetrics timeoutOLT systemWalkOIDs.entries = .ok m ∧
        getSystemMetrics { timeoutOLT with snmp := { timeoutOLT.snmp with
          walk := fun o => { timeoutOLT.snmp.walk o with
            err := if o = OIDZTECardCPUUsage then some "request timeout" else none } } }
          systemWalkOIDs.entries = .ok m :=
  ⟨rfl, getSystemMetrics_ignores_walk_errors timeoutOLT systemWalkOIDs.entries [] rfl _⟩

theorem getSystemMetrics_of_get_err (c : ZTEOLTClient)
    (order : List (String × (SnmpPDU → OLTSystemMetrics → OLTSystemMetrics))) (err : String)
    (hget : c.snmp.get [OIDSysDescr, OIDSysName, OIDSysUpTime] = .error err) :
    getSystemMetrics c order = .error ("failed to get system metrics: " ++ err) := by
  simp [getSystemMetrics, hget]

/-! ## The card fields -/

/-- The largest of zero and a card column's `pduToInt` values. -/
def columnMax (session : SnmpSession) (baseOID : String) : ℤ :=
  (session.walk baseOID).pdus.foldl (fun a pdu => max a (pduToInt pdu).toInt) 0

/-- The largest of zero and the memory-total column's `int64` products `pduToInt · 1024`. -/
def memoryTotalMax (session : SnmpSession) : ℤ :=
  (session.walk OIDZTECardMemoryTotal).pdus.foldl
    (fun a pdu => max a (pduToInt pdu * 1024).toInt) 0

/-- `deriveMemoryUsed` sets `MemoryUsedKB` from the two fields it reads, and nothing else. -/
theorem deriveMemoryUsed_eq (m : OLTSystemMetrics) :
    deriveMemoryUsed m = { m with memoryUsedKB :=
      (if BitVec.slt 0 m.memoryTotalKB && GoFloat.lt 0 m.memoryUsagePercent
        then GoFloat.toInt64 (GoFloat.ofInt m.memoryTotalKB.toInt * m.memoryUsagePercent / 100)
        else m.memoryUsedKB) } := by
  unfold deriveMemoryUsed
  split <;> rfl

/-- The record `GetSystemMetrics` returns once the GET has succeeded, for every visiting order and
whatever the walks deliver: each card field is reduced from zero, and `MemoryUsedKB` is derived
from the two memory fields. -/
theorem getSystemMetrics_fields (c : ZTEOLTClient)
    {order : List (String × (SnmpPDU → OLTSystemMetrics → OLTSystemMetrics))}
    (hperm : order.Perm systemWalkOIDs.entries) {packet : List SnmpPDU}
    (hget : c.snmp.get [OIDSysDescr, OIDSysName, OIDSysUpTime] = .ok packet) :
    ∃ m, getSystemMetrics c order = .ok m ∧
      m.cpuUsagePercent = GoFloat.ofInt (columnMax c.snmp OIDZTECardCPUUsage) ∧
      m.temperatureCelsius = GoFloat.ofInt (columnMax c.snmp OIDZTECardTemperature) ∧
      m.memoryUsagePercent = GoFloat.ofInt (columnMax c.snmp OIDZTECardMemoryUsage) ∧
      m.memoryTotalKB.toInt = memoryTotalMax c.snmp ∧
      m.memoryUsedKB = (if BitVec.slt 0 m.memoryTotalKB && GoFloat.lt 0 m.memoryUsagePercent
        then GoFloat.toInt64 (GoFloat.ofInt m.memoryTotalKB.toInt * m.memoryUsagePercent / 100)
        else 0) := by
  obtain ⟨descr, name, uptime, hscalar⟩ := foldl_readScalar_frame packet (zeroMetrics c.device.id)
  let w := walkIgnoringErrors c.snmp order (packet.foldl readScalar (zeroMetrics c.device.id))
  have hused : w.memoryUsedKB = 0 := by
    rw [memoryUsedKB_walkIgnoringErrors _ _ (fun d hd => hperm.subset hd), hscalar]
    rfl
  refine ⟨deriveMemoryUsed w, by simp only [getSystemMetrics, hget], ?_⟩
  rw [deriveMemoryUsed_eq]
  refine ⟨?_, ?_, ?_, ?_, by simp only [hused]⟩
  · rw [field_walkIgnoringErrors (·.cpuUsagePercent) raiseFloat OIDZTECardCPUUsage raiseCPUUsage
      rfl (fun d hd _ _ => by rw [systemWalkOIDs_callback hd]) hperm, hscalar]
    exact foldl_raiseFloat _ (a := 0) (by norm_num)
  · rw [field_walkIgnoringErrors (·.temperatureCelsius) raiseFloat OIDZTECardTemperature
      raiseTemperature rfl (fun d hd _ _ => by rw [systemWalkOIDs_callback hd]) hperm, hscalar]
    exact foldl_raiseFloat _ (a := 0) (by norm_num)
  · rw [field_walkIgnoringErrors (·.memoryUsagePercent) raiseFloat OIDZTECardMemoryUsage
      raiseMemoryUsage rfl (fun d hd _ _ => by rw [systemWalkOIDs_callback hd]) hperm, hscalar]
    exact foldl_raiseFloat _ (a := 0) (by norm_num)
  · rw [field_walkIgnoringErrors (·.memoryTotalKB) raiseInt64 OIDZTECardMemoryTotal
      raiseMemoryTotal rfl (fun d hd _ _ => by rw [systemWalkOIDs_callback hd]) hperm,
      toInt_foldl_raiseInt64, hscalar]
    rfl

/-! ## The card fields as maxima -/

/-- The rows of a card column, as Go integers. -/
def cardRows (session : SnmpSession) (baseOID : String) : List ℤ :=
  (session.walk baseOID).pdus.map fun pdu => (pduToInt pdu).toInt

/-- A card field as a maximum: zero when the column has no rows, and the converted maximum of the
rows when that maximum is not negative. -/
def CardField {α : Type} [OfNat α 0] (conv : ℤ → α) (rows : List ℤ) (field : α) : Prop :=
  (rows = [] → field = 0) ∧ ∀ M, rows.max? = some M → 0 ≤ M → field = conv M

theorem foldl_max_comm (l : List ℤ) (a b : ℤ) : l.foldl max (max a b) = max a (l.foldl max b) := by
  induction l generalizing b with
  | nil => rfl
  | cons x l ih => simp only [List.foldl_cons, max_assoc, ih]

/-- A running maximum from zero is the maximum, once that is not negative. -/
theorem foldl_max_zero_of_max? {l : List ℤ} {M : ℤ} (h : l.max? = some M) (hM : 0 ≤ M) :
    l.foldl max 0 = M := by
  cases l with
  | nil => simp at h
  | cons x l =>
      rw [List.foldl_cons, foldl_max_comm, Option.some.inj h, max_eq_right hM]

theorem columnMax_eq (session : SnmpSession) (baseOID : String) :
    columnMax session baseOID = (cardRows session baseOID).foldl max 0 := by
  rw [columnMax, cardRows, List.foldl_map]

theorem cardField_ofInt_columnMax (session : SnmpSession) (baseOID : String) :
    CardField GoFloat.ofInt (cardRows session baseOID) (GoFloat.ofInt (columnMax session baseOID)) := by
  refine ⟨fun h => ?_, fun M h hM => ?_⟩
  · rw [columnMax_eq, h]; rfl
  · rw [columnMax_eq, foldl_max_zero_of_max? h hM]

/-- Without wrap-around, the largest product by 1024 is 1024 times the largest row. -/
theorem memoryTotalMax_eq (session : SnmpSession)
    (hrows : ∀ r ∈ cardRows session OIDZTECardMemoryTotal, |r| < 2 ^ 53) :
    memoryTotalMax session = 1024 * (cardRows session OIDZTECardMemoryTotal).foldl max 0 := by
  have hmul : ∀ pdu ∈ (session.walk OIDZTECardMemoryTotal).pdus,
      (pduToInt pdu * 1024).toInt = 1024 * (pduToInt pdu).toInt := by
    intro pdu hpdu
    have := abs_lt.mp (hrows _ (List.mem_map_of_mem _ hpdu))
    rw [BitVec.toInt_mul, show (1024 : BitVec 64).toInt = 1024 from rfl,
      bmod_of_mem_range ⟨by omega, by omega⟩, mul_comm]
  have hhom := List.foldl_hom (1024 * ·) max (fun a r => max a (1024 * r))
    (cardRows session OIDZTECardMemoryTotal) 0 (fun x y => (mul_max_of_nonneg x y (by norm_num)).symm)
  simp only [mul_zero] at hhom
  rw [← hhom, memoryTotalMax, cardRows, List.foldl_map]
  exact List.foldl_ext _ _ 0 (fun a pdu hpdu => by rw [hmul pdu hpdu])

/-- The card fields of the returned record, read as maxima: the three `float64` fields are the
`float64` of their column's maximum, `MemoryTotalKB` is 1024 times its column's maximum while the
products do not wrap around, each is 0 on an empty column, and `MemoryUsedKB` is computed in
`float64` from the two memory fields, which is the floor of the exact quotient while the product is
below `2^53`. -/
theorem getSystemMetrics_card_fields (c : ZTEOLTClient)
    (order : List (String × (SnmpPDU → OLTSystemMetrics → OLTSystemMetrics)))
    (hperm : order.Perm systemWalkOIDs.entries) (packet : List SnmpPDU)
    (hget : c.snmp.get [OIDSysDescr, OIDSysName, OIDSysUpTime] = .ok packet) :
    ∃ m, getSystemMetrics c order = .ok m ∧
      CardField GoFloat.ofInt (cardRows c.snmp OIDZTECardCPUUsage) m.cpuUsagePercent ∧
      CardField GoFloat.ofInt (cardRows c.snmp OIDZTECardTemperature) m.temperatureCelsius ∧
      CardField GoFloat.ofInt (cardRows c.snmp OIDZTECardMemoryUsage) m.memoryUsagePercent ∧
      ((∀ r ∈ cardRows c.snmp OIDZTECardMemoryTotal, |r| < 2 ^ 53) →
        CardField (1024 * ·) (cardRows c.snmp OIDZTECardMemoryTotal) m.memoryTotalKB.toInt) ∧
      m.memoryUsedKB = (if BitVec.slt 0 m.memoryTotalKB && GoFloat.lt 0 m.memoryUsagePercent
        then GoFloat.toInt64 (GoFloat.ofInt m.memoryTotalKB.toInt * m.memoryUsagePercent / 100)
        else 0) ∧
      ∀ p : ℤ, m.memoryUsagePercent = GoFloat.ofInt p → 0 < m.memoryTotalKB.toInt → 0 < p →
        m.memoryTotalKB.toInt * p < 2 ^ 53 →
        m.memoryUsedKB.toInt = m.memoryTotalKB.toInt * p / 100 := by
  obtain ⟨m, hrun, hcpu, htemp, husage, htotal, hused⟩ := getSystemMetrics_fields c hperm hget
  refine ⟨m, hrun, hcpu ▸ cardField_ofInt_columnMax _ _, htemp ▸ cardField_ofInt_columnMax _ _,
    husage ▸ cardField_ofInt_columnMax _ _, fun hrows => ?_, hused, fun p hp ht hp0 htp => ?_⟩
  · rw [htotal, memoryTotalMax_eq _ hrows]
    exact ⟨fun h => by rw [h]; rfl, fun M h hM => by rw [foldl_max_zero_of_max? h hM]⟩
  · have hpt : p ≤ m.memoryTotalKB.toInt * p := by nlinarith
    have hslt : BitVec.slt 0 m.memoryTotalKB = true := by
      simpa only [BitVec.slt, show (0 : BitVec 64).toInt = 0 from rfl, decide_eq_true_eq] using ht
    rw [hused, hp, hslt, GoFloat.lt_zero_ofInt (GoFloat.abs_intCast_le_maxFinite ⟨by omega, by omega⟩),
      decide_eq_true hp0, Bool.and_self, if_pos rfl]
    exact GoFloat.toInt_toInt64_mul_div_hundred ht hp0 htp

/-- A chassis with one card, whose memory-total column reads 1 MB and whose memory-usage column
reads `879609302220805`. -/
def roundingOLT : ZTEOLTClient :=
  ⟨⟨fun _ => .ok [], fun o =>
      if o = OIDZTECardMemoryTotal then ⟨[SnmpPDU.ofInt (o ++ ".1") 1], none⟩
      else if o = OIDZTECardMemoryUsage then ⟨[SnmpPDU.ofInt (o ++ ".1") 879609302220805], none⟩
      else ⟨[], none⟩⟩,
   ⟨"olt-1", "OLT-1", "10.0.0.2", DeviceTypeOLT, ProtocolSNMP, true, none⟩⟩

theorem getSystemMetrics_card_fields_roundingOLT :
    (systemWalkOIDs.entries.Perm systemWalkOIDs.entries ∧
      roundingOLT.snmp.get [OIDSysDescr, OIDSysName, OIDSysUpTime] = .ok []) ∧
    ∃ m, getSystemMetrics roundingOLT systemWalkOIDs.entries = .ok m ∧
      CardField GoFloat.ofInt (cardRows roundingOLT.snmp OIDZTECardCPUUsage) m.cpuUsagePercent ∧
      CardField GoFloat.ofInt (cardRows roundingOLT.snmp OIDZTECardTemperature) m.temperatureCelsius ∧
      CardField GoFloat.ofInt (cardRows roundingOLT.snmp OIDZTECardMemoryUsage) m.memoryUsagePercent ∧
      ((∀ r ∈ cardRows roundingOLT.snmp OIDZTECardMemoryTotal, |r| < 2 ^ 53) →
        CardField (1024 * ·) (cardRows roundingOLT.snmp OIDZTECardMemoryTotal) m.memoryTotalKB.toInt) ∧
      m.memoryUsedKB = (if BitVec.slt 0 m.memoryTotalKB && GoFloat.lt 0 m.memoryUsagePercent
        then GoFloat.toInt64 (GoFloat.ofInt m.memoryTotalKB.toInt * m.memoryUsagePercent / 100)
        else 0) ∧
      ∀ p : ℤ, m.memoryUsagePercent = GoFloat.ofInt p → 0 < m.memoryTotalKB.toInt → 0 < p →
        m.memoryTotalKB.toInt * p < 2 ^ 53 →
        m.memoryUsedKB.toInt = m.memoryTotalKB.toInt * p / 100 :=
  ⟨⟨List.Perm.refl _, rfl⟩, getSystemMetrics_card_fields roundingOLT _ (List.Perm.refl _) [] rfl⟩

/-- `1024 · 879609302220805 / 100 = 9007199254741043.2` lies in the binade of `2^53`, where
`float64` values are two apart; it rounds to the nearer one, `9007199254741044`. -/
theorem roundBinary64_roundingOLT_quotient :
    roundBinary64 (((1024 * 879609302220805 : ℤ) : ℚ) / 100) = 9007199254741044 := by
  have hb : binade (((1024 * 879609302220805 : ℤ) : ℚ) / 100) = 53 :=
    binade_eq (by norm_num) (by rw [abs_of_pos (by norm_num)]; norm_num)
      (by rw [abs_of_pos (by norm_num)]; norm_num)
  rw [roundBinary64, ulp, hb, roundHalfEven]
  norm_num

/-- With every walk succeeding, the memory fields of `roundingOLT` are positive and exact, yet
`MemoryUsedKB` is one more than the floor of `MemoryTotalKB * MemoryUsagePercent / 100`. -/
theorem getSystemMetrics_roundingOLT_memoryUsed :
    (∀ o, (roundingOLT.snmp.walk o).err = none) ∧
    ∃ m, getSystemMetrics roundingOLT systemWalkOIDs.entries = .ok m ∧
      m.memoryTotalKB.toInt = 1024 ∧ m.memoryUsagePercent = GoFloat.ofInt 879609302220805 ∧
      m.memoryUsedKB.toInt = 9007199254741044 ∧ 1024 * 879609302220805 / 100 = 9007199254741043 := by
  refine ⟨fun o => by dsimp only [roundingOLT]; split_ifs <;> rfl, ?_⟩
  obtain ⟨m, hrun, -, -, husage, htotal, hused⟩ :=
    getSystemMetrics_fields roundingOLT (List.Perm.refl _) rfl
  have htotal' : m.memoryTotalKB.toInt = 1024 := htotal.trans (by decide)
  have husage' : m.memoryUsagePercent = GoFloat.ofInt 879609302220805 :=
    husage.trans (congrArg _ (by decide))
  have hslt : BitVec.slt 0 m.memoryTotalKB = true := by
    simp only [BitVec.slt, show (0 : BitVec 64).toInt = 0 from rfl, htotal']
    decide
  refine ⟨m, hrun, htotal', husage', ?_, by norm_num⟩
  rw [hused, husage', htotal', hslt, GoFloat.lt_zero_ofInt
      (GoFloat.abs_intCast_le_maxFinite ⟨by norm_num, by norm_num⟩), if_pos (by decide),
    GoFloat.toInt_toInt64_mul_div_hundred_eq_floor (by norm_num) (by norm_num) (by norm_num)
      (by norm_num) (by norm_num) ?_, roundBinary64_roundingOLT_quotient]
  · norm_num
  · -- `1024 · 879609302220805 = 879609302220805 · 2^10` has a 50-bit significand
    rw [show (((1024 * 879609302220805 : ℤ)) : ℚ) = ((879609302220805 : ℤ) : ℚ) * 2 ^ (10 : ℤ) by
      norm_num]
    exact roundBinary64_mul_zpow (by norm_num) (by norm_num)


/-! ## Columns below zero -/

theorem foldl_max_zero_of_neg {l : List ℤ} (h : ∀ r ∈ l, r < 0) : l.foldl max 0 = 0 := by
  induction l with
  | nil => rfl
  | cons x l ih =>
      rw [List.foldl_cons, max_eq_left (h x (List.mem_cons_self x l)).le,
        ih fun r hr => h r (List.mem_cons_of_mem x hr)]

/-- A card column whose rows are all negative leaves its field at 0, above the column's maximum:
each field starts from the zero record. An all-negative memory-total column leaves
`MemoryTotalKB` and `MemoryUsedKB` at 0. -/
theorem getSystemMetrics_negative_columns (c : ZTEOLTClient)
    {order : List (String × (SnmpPDU → OLTSystemMetrics → OLTSystemMetrics))}
    (hperm : order.Perm systemWalkOIDs.entries) {packet : List SnmpPDU}
    (hget : c.snmp.get [OIDSysDescr, OIDSysName, OIDSysUpTime] = .ok packet) :
    ∃ m, getSystemMetrics c order = .ok m ∧
      ((∀ r ∈ cardRows c.snmp OIDZTECardCPUUsage, r < 0) → m.cpuUsagePercent = 0) ∧
      ((∀ r ∈ cardRows c.snmp OIDZTECardTemperature, r < 0) → m.temperatureCelsius = 0) ∧
      ((∀ r ∈ cardRows c.snmp OIDZTECardMemoryUsage, r < 0) → m.memoryUsagePercent = 0) ∧
      ((∀ r ∈ cardRows c.snmp OIDZTECardMemoryTotal, r < 0 ∧ |r| < 2 ^ 53) →
        m.memoryTotalKB = 0 ∧ m.memoryUsedKB = 0) := by
  obtain ⟨m, hrun, hcpu, htemp, husage, htotal, hused⟩ := getSystemMetrics_fields c hperm hget
  have hzero : ∀ oid, (∀ r ∈ cardRows c.snmp oid, r < 0) → GoFloat.ofInt (columnMax c.snmp oid) = 0 :=
    fun oid h => by rw [columnMax_eq, foldl_max_zero_of_neg h]; rfl
  refine ⟨m, hrun, fun h => hcpu ▸ hzero _ h, fun h => htemp ▸ hzero _ h,
    fun h => husage ▸ hzero _ h, fun h => ?_⟩
  have htot : m.memoryTotalKB = 0 := BitVec.eq_of_toInt_eq (by
    rw [htotal, memoryTotalMax_eq _ fun r hr => (h r hr).2,
      foldl_max_zero_of_neg fun r hr => (h r hr).1]
    rfl)
  refine ⟨htot, ?_⟩
  rw [hused, htot]
  rfl

/-- A chassis whose one card reads -5 and -3 degrees. -/
def coldOLT : ZTEOLTClient :=
  ⟨⟨fun _ => .ok [], fun o =>
      if o = OIDZTECardTemperature
      then ⟨[SnmpPDU.ofInt (o ++ ".1") (-5), SnmpPDU.ofInt (o ++ ".2") (-3)], none⟩
      else ⟨[], none⟩⟩,
   ⟨"olt-1", "OLT-1", "10.0.0.2", DeviceTypeOLT, ProtocolSNMP, true, none⟩⟩

/-- On `coldOLT` the temperature column's maximum is -3, yet `TemperatureCelsius` is 0. -/
theorem getSystemMetrics_negative_columns_coldOLT :
    (systemWalkOIDs.entries.Perm systemWalkOIDs.entries ∧
      coldOLT.snmp.get [OIDSysDescr, OIDSysName, OIDSysUpTime] = .ok []) ∧
    cardRows coldOLT.snmp OIDZTECardTemperature = [-5, -3] ∧
    ∃ m, getSystemMetrics coldOLT systemWalkOIDs.entries = .ok m ∧ m.temperatureCelsius = 0 := by
  obtain ⟨m, hm, -, htemp, -, -⟩ :=
    @getSystemMetrics_negative_columns coldOLT _ (List.Perm.refl _) [] rfl
  have hrows : cardRows coldOLT.snmp OIDZTECardTemperature = [-5, -3] := by decide
  exact ⟨⟨List.Perm.refl _, rfl⟩, hrows, m, hm, htemp (by rw [hrows]; decide)⟩

end GoNms.Zte
