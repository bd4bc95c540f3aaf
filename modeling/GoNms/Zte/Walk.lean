import GoNms.Go.Map
import GoNms.Go.Float
import GoNms.Zte.Oid
import GoNms.Device.Model

set_option autoImplicit false

/-! # The column loop of the ZTE table methods

`GetPONPortMetrics` and `GetONTMetrics` hold a Go map from a column's base OID to a setter,
`range` over it, and `Walk` each column with a callback that files every PDU under the index its
OID carries. A `range` over a Go map visits the entries in an order that changes from run to run,
so the loop takes the visiting order as an argument, and the theorems hold for every permutation
of the map's entries.

What the accumulator holds after the loop is proved here once for both methods: under the key of
each index that some PDU carries, the fresh record put through that index's setter calls in call
order (`find?_foldl_columns`), which does not depend on the visiting order as soon as a setter
overwrites the previous call of its own column and commutes with the other columns' setters
(`applyAll_hits_of_perm`). -/

namespace GoNms.Zte

open GoNms.Go GoNms.Snmp

/-- `ZTEOLTClient` once `Connect` (or `SetDevice`) has set its device: the session it talks to and
the device. The `timeout` field only configures the connection. -/
structure ZTEOLTClient where
  snmp : SnmpSession
  device : Device

/-- `snmpPowerScale`: raw optical power values are in 0.1 dBm. -/
def snmpPowerScale : GoFloat := 10

/-- `float64(pduToInt(pdu)) / snmpPowerScale`, what every power column stores. -/
def powerDBm (pdu : SnmpPDU) : GoFloat := GoFloat.ofInt (pduToInt pdu).toInt / snmpPowerScale

section Loop

variable {K R : Type}

/-- The `for baseOID, setter := range walkOIDs` loop of the table methods, over the map's entries
in the order `range` visits them this run: walk each column, fold the PDUs it delivers into the
accumulator with the column's callback, and give up with `wrap baseOID err` at the first walk
that fails. -/
def walkColumns (session : SnmpSession) (wrap : String → String → String)
    (callback : String → (SnmpPDU → R → R) → GoMap K R → SnmpPDU → GoMap K R) :
    List (String × (SnmpPDU → R → R)) → GoMap K R → Except String (GoMap K R)
  | [], acc => .ok acc
  | (baseOID, setter) :: rest, acc =>
      let walk := session.walk baseOID
      let acc := walk.pdus.foldl (callback baseOID setter) acc
      match walk.err with
      | some err => .error (wrap baseOID err)
      | none => walkColumns session wrap callback rest acc

variable {session : SnmpSession} {wrap : String → String → String}
  {callback : String → (SnmpPDU → R → R) → GoMap K R → SnmpPDU → GoMap K R}

/-- When every walk succeeds, the loop is the fold of the columns' folds. -/
theorem walkColumns_of_ok {order : List (String × (SnmpPDU → R → R))}
    (hok : ∀ c ∈ order, (session.walk c.1).err = none) (acc : GoMap K R) :
    walkColumns session wrap callback order acc =
      .ok (order.foldl (fun acc c => (session.walk c.1).pdus.foldl (callback c.1 c.2) acc) acc) := by
  induction order generalizing acc with
  | nil => rfl
  | cons c rest ih =>
      simp only [walkColumns, hok c (List.mem_cons_self _ _), List.foldl_cons]
      exact ih (fun c hc => hok c (List.mem_cons_of_mem _ hc)) _

/-- When some walk fails, so does the loop, with the error of the first failing column, wrapped:
no accumulator escapes, however many PDUs that walk delivered. -/
theorem walkColumns_of_err {order : List (String × (SnmpPDU → R → R))}
    (herr : ∃ c ∈ order, (session.walk c.1).err ≠ none) (acc : GoMap K R) :
    ∃ c ∈ order, ∃ err, (session.walk c.1).err = some err ∧
      walkColumns session wrap callback order acc = .error (wrap c.1 err) := by
  induction order generalizing acc with
  | nil => simp at herr
  | cons c rest ih =>
      cases h : (session.walk c.1).err with
      | some err => exact ⟨c, List.mem_cons_self _ _, err, h, by simp [walkColumns, h]⟩
      | none =>
          have hrest : ∃ c ∈ rest, (session.walk c.1).err ≠ none := by
            obtain ⟨c', hc', hne⟩ := herr
            rcases List.mem_cons.mp hc' with rfl | hc'
            · exact absurd h hne
            · exact ⟨c', hc', hne⟩
          obtain ⟨c', hc', err, he, hres⟩ :=
            ih hrest ((session.walk c.1).pdus.foldl (callback c.1 c.2) acc)
          exact ⟨c', List.mem_cons_of_mem _ hc', err, he, by simp [walkColumns, h, hres]⟩

/-- Callbacks that agree on the visited columns give the same loop. -/
theorem walkColumns_congr {callback' : String → (SnmpPDU → R → R) → GoMap K R → SnmpPDU → GoMap K R}
    {order : List (String × (SnmpPDU → R → R))}
    (h : ∀ c ∈ order, callback c.1 c.2 = callback' c.1 c.2) (acc : GoMap K R) :
    walkColumns session wrap callback order acc = walkColumns session wrap callback' order acc := by
  induction order generalizing acc with
  | nil => rfl
  | cons c rest ih =>
      simp only [walkColumns, h c (List.mem_cons_self _ _),
        ih (fun d hd => h d (List.mem_cons_of_mem _ hd))]

end Loop

/-! ## Filing PDUs by index -/

section Index

variable {K R : Type} [DecidableEq K]

/-- The callback of the table methods for the column `baseOID` with setter `update`: index the
PDU under `baseOID`, drop it when the index is negative, create the record under `key index` with
`fresh index` on first sight, and apply `update` to the record. -/
def indexInto (key : BitVec 64 → K) (fresh : BitVec 64 → R) (baseOID : String)
    (update : SnmpPDU → R → R) (acc : GoMap K R) (pdu : SnmpPDU) : GoMap K R :=
  let index := extractLastOIDIndex pdu.name baseOID
  if index.toInt < 0 then acc else acc.upsert (key index) (fresh index) (update pdu)

/-- One setter call on a record that may not exist yet: create it from `fresh`, then update. -/
def touch (fresh : R) (o : Option R) (f : R → R) : Option R := some (f (o.getD fresh))

/-- The setter calls the loop makes on the record of index `i`, in call order: for each column in
visiting order, one per PDU of its walk whose index under the column's base OID is `i`. -/
def hits (session : SnmpSession) (i : BitVec 64) (order : List (String × (SnmpPDU → R → R))) :
    List (R → R) :=
  order.flatMap fun c =>
    ((session.walk c.1).pdus.filter (fun pdu => extractLastOIDIndex pdu.name c.1 = i)).map c.2

/-- A list of setter calls applied in order. -/
def applyAll (fs : List (R → R)) (r : R) : R := fs.foldl (fun r f => f r) r

theorem foldl_touch_none (fresh : R) (fs : List (R → R)) :
    fs.foldl (touch fresh) none = if fs.isEmpty then none else some (applyAll fs fresh) := by
  have hsome : ∀ (gs : List (R → R)) r, gs.foldl (touch fresh) (some r) = some (applyAll gs r) := by
    intro gs
    induction gs with
    | nil => intro r; rfl
    | cons g gs ih => intro r; exact ih (g r)
  cases fs with
  | nil => rfl
  | cons f fs => exact hsome fs (f fresh)

/-- The loop leaves alone every key outside the image of the non-negative indices. -/
theorem find?_foldl_columns_of_not_key {key : BitVec 64 → K} (fresh : BitVec 64 → R) {k : K}
    (hk : ∀ i, 0 ≤ i.toInt → key i ≠ k) (session : SnmpSession)
    (order : List (String × (SnmpPDU → R → R))) (acc : GoMap K R) :
    (order.foldl (fun acc c => (session.walk c.1).pdus.foldl (indexInto key fresh c.1 c.2) acc)
        acc).find? k = acc.find? k := by
  -- a fold of steps that each keep `find? k` keeps it
  have hfold : ∀ {α : Type} (f : GoMap K R → α → GoMap K R),
      (∀ acc x, (f acc x).find? k = acc.find? k) → ∀ (l : List α) acc, (l.foldl f acc).find? k = acc.find? k :=
    fun f hf l acc => (List.foldl_hom (fun acc => acc.find? k) f (fun o _ => o) l acc
      (fun x y => (hf x y).symm)).symm.trans (List.foldl_fixed _)
  refine hfold _ (fun acc c => hfold _ (fun acc pdu => ?_) _ acc) order acc
  dsimp only [indexInto]
  split
  · rfl
  · rw [GoMap.find?_upsert, if_neg (Ne.symm (hk _ (by omega)))]

variable {key : BitVec 64 → K} (hkey : Function.Injective key) (fresh : BitVec 64 → R)
  {i : BitVec 64} (hi : 0 ≤ i.toInt)
include hkey hi

/-- One PDU: the record of a non-negative index `i` receives the call iff the PDU indexes to `i`. -/
theorem find?_indexInto (baseOID : String) (update : SnmpPDU → R → R) (acc : GoMap K R)
    (pdu : SnmpPDU) :
    (indexInto key fresh baseOID update acc pdu).find? (key i) =
      if extractLastOIDIndex pdu.name baseOID = i then touch (fresh i) (acc.find? (key i)) (update pdu)
      else acc.find? (key i) := by
  unfold indexInto
  by_cases hneg : (extractLastOIDIndex pdu.name baseOID).toInt < 0
  · have hne : extractLastOIDIndex pdu.name baseOID ≠ i := fun h => by rw [h] at hneg; omega
    simp [hneg, hne]
  · rw [if_neg hneg, GoMap.find?_upsert]
    by_cases h : extractLastOIDIndex pdu.name baseOID = i
    · subst h; simp [touch]
    · simp [h, hkey.ne_iff, Ne.symm h]

/-- One column's walk. -/
theorem find?_foldl_indexInto (baseOID : String) (update : SnmpPDU → R → R)
    (pdus : List SnmpPDU) (acc : GoMap K R) :
    (pdus.foldl (indexInto key fresh baseOID update) acc).find? (key i) =
      ((pdus.filter (fun pdu => extractLastOIDIndex pdu.name baseOID = i)).map update).foldl
        (touch (fresh i)) (acc.find? (key i)) := by
  induction pdus generalizing acc with
  | nil => rfl
  | cons pdu pdus ih =>
      rw [List.foldl_cons, ih, find?_indexInto hkey fresh hi]
      by_cases h : extractLastOIDIndex pdu.name baseOID = i <;> simp [List.filter_cons, h]

/-- The whole loop, every walk having succeeded. -/
theorem find?_foldl_columns (session : SnmpSession) (order : List (String × (SnmpPDU → R → R)))
    (acc : GoMap K R) :
    (order.foldl (fun acc c => (session.walk c.1).pdus.foldl (indexInto key fresh c.1 c.2) acc)
        acc).find? (key i) =
      (hits session i order).foldl (touch (fresh i)) (acc.find? (key i)) := by
  induction order generalizing acc with
  | nil => rfl
  | cons c order ih =>
      rw [List.foldl_cons, ih, find?_foldl_indexInto hkey fresh hi]
      simp only [hits, List.flatMap_cons, List.foldl_append]

end Index

/-! ## Independence from the visiting order -/

section Order

variable {R : Type}

/-- The PDU of a column's walk that last indexes to `i` under the column's base OID. -/
def lastAt (session : SnmpSession) (baseOID : String) (i : BitVec 64) : Option SnmpPDU :=
  ((session.walk baseOID).pdus.filter (fun pdu => extractLastOIDIndex pdu.name baseOID = i)).getLast?

/-- A column's last call on the record of index `i`, if it makes one. -/
def lastCall (session : SnmpSession) (i : BitVec 64) (r : R) (c : String × (SnmpPDU → R → R)) :
    R :=
  (lastAt session c.1 i).elim r (fun pdu => c.2 pdu r)

/-- Column maps whose loop result does not depend on the visiting order: a setter call overwrites
the previous call of its own column, and calls of different columns commute. -/
structure Overwriting (cols : List (String × (SnmpPDU → R → R))) : Prop where
  absorb : ∀ c ∈ cols, ∀ p q r, c.2 p (c.2 q r) = c.2 p r
  comm : ∀ c ∈ cols, ∀ d ∈ cols, c.1 ≠ d.1 → ∀ p q r, c.2 p (d.2 q r) = d.2 q (c.2 p r)

/-- Under an overwriting setter, a run of calls leaves what its last call sets. -/
theorem applyAll_map_of_absorb {s : SnmpPDU → R → R} (habs : ∀ p q r, s p (s q r) = s p r)
    (pdus : List SnmpPDU) (r : R) :
    applyAll (pdus.map s) r = pdus.getLast?.elim r (fun p => s p r) := by
  induction pdus generalizing r with
  | nil => rfl
  | cons p pdus ih =>
      rw [List.map_cons, applyAll, List.foldl_cons, ← applyAll, ih, List.getLast?_cons]
      cases pdus.getLast? <;> simp [habs]

variable {session : SnmpSession} {cols order : List (String × (SnmpPDU → R → R))}

/-- The calls of one visiting order collapse to each column's last call, column after column. -/
theorem applyAll_hits_eq_foldl_lastCall (hw : Overwriting cols) (hsub : ∀ c ∈ order, c ∈ cols)
    (i : BitVec 64) (r : R) : applyAll (hits session i order) r = order.foldl (lastCall session i) r := by
  induction order generalizing r with
  | nil => rfl
  | cons c order ih =>
      have hc := applyAll_map_of_absorb (hw.absorb c (hsub c (List.mem_cons_self _ _)))
        ((session.walk c.1).pdus.filter (fun pdu => extractLastOIDIndex pdu.name c.1 = i)) r
      simp only [hits, applyAll, List.flatMap_cons, List.foldl_append] at hc ih ⊢
      rw [hc, ih (fun d hd => hsub d (List.mem_cons_of_mem _ hd)), List.foldl_cons]
      rfl

/-- For overwriting columns, the record an index ends with is the same for every visiting order. -/
theorem applyAll_hits_of_perm (hnd : (cols.map Prod.fst).Nodup) (hperm : order.Perm cols)
    (hw : Overwriting cols) (i : BitVec 64) (r : R) :
    applyAll (hits session i order) r = cols.foldl (lastCall session i) r := by
  rw [applyAll_hits_eq_foldl_lastCall hw (fun c hc => hperm.subset hc)]
  refine hperm.foldl_eq' (fun c hc d hd z => ?_) r
  have hc' := hperm.subset hc
  have hd' := hperm.subset hd
  by_cases h : c.1 = d.1
  · rw [List.inj_on_of_nodup_map hnd hc' hd' h]
  · simp only [lastCall]
    cases lastAt session c.1 i <;> cases lastAt session d.1 i <;>
      simp [hw.comm d hd' c hc' (Ne.symm h)]

/-- Index `i` names a record of a table method's result: it is non-negative and some PDU of some
column's walk indexes to it under that column's base OID. -/
def Indexed (session : SnmpSession) (oids : List String) (i : BitVec 64) : Prop :=
  0 ≤ i.toInt ∧ ∃ o ∈ oids, ∃ pdu ∈ (session.walk o).pdus, extractLastOIDIndex pdu.name o = i

theorem hits_isEmpty_eq_false_iff (hperm : order.Perm cols) (i : BitVec 64) :
    (hits session i order).isEmpty = false ↔
      ∃ o ∈ cols.map Prod.fst, ∃ pdu ∈ (session.walk o).pdus, extractLastOIDIndex pdu.name o = i := by
  simp only [hits, List.isEmpty_eq_false_iff_exists_mem, List.mem_flatMap, List.mem_map,
    List.mem_filter, decide_eq_true_eq, hperm.mem_iff]
  aesop

/-- A table method's loop when every walk succeeds, for overwriting columns and any visiting
order: under the key of each indexed `i`, the fresh record put through each column's last call on
`i`; nothing under any other key. -/
theorem walkColumns_indexInto {K : Type} [DecidableEq K] {key : BitVec 64 → K}
    (hkey : Function.Injective key) (fresh : BitVec 64 → R) (wrap : String → String → String)
    (hnd : (cols.map Prod.fst).Nodup) (hw : Overwriting cols) (hperm : order.Perm cols)
    (hok : ∀ c ∈ cols, (session.walk c.1).err = none) :
    ∃ acc, walkColumns session wrap (indexInto key fresh) order GoMap.empty = .ok acc ∧
      ∀ k v, acc.find? k = some v ↔ ∃ i, key i = k ∧ Indexed session (cols.map Prod.fst) i ∧
        v = cols.foldl (lastCall session i) (fresh i) := by
  refine ⟨_, walkColumns_of_ok (fun c hc => hok c (hperm.subset hc)) _, fun k v => ?_⟩
  by_cases hk : ∃ i, 0 ≤ i.toInt ∧ key i = k
  · obtain ⟨i, hi, rfl⟩ := hk
    have hidx : (hits session i order).isEmpty = false ↔ Indexed session (cols.map Prod.fst) i := by
      rw [hits_isEmpty_eq_false_iff hperm]
      exact ⟨fun h => ⟨hi, h⟩, And.right⟩
    rw [find?_foldl_columns hkey fresh hi, GoMap.find?_empty, foldl_touch_none,
      applyAll_hits_of_perm hnd hperm hw]
    constructor
    · intro h
      cases he : (hits session i order).isEmpty
      · simp only [he] at h
        exact ⟨i, rfl, hidx.mp he, (Option.some_injective _ h).symm⟩
      · simp [he] at h
    · rintro ⟨j, hj, hind, rfl⟩
      obtain rfl := hkey hj
      simp [hidx.mpr hind]
  · rw [find?_foldl_columns_of_not_key fresh (fun i hi h => hk ⟨i, hi, h⟩), GoMap.find?_empty]
    simp only [reduceCtorEq, false_iff, not_exists, not_and]
    rintro j rfl ⟨hj, -⟩
    exact fun _ => hk ⟨j, hj, rfl⟩

/-- The record list a table method returns, from what its accumulator holds: when each key holds
`expected i` for the one indexed `i` it names, the list has exactly one record per indexed `i`,
and that record is `expected i`. -/
theorem values_of_find? {K : Type} [DecidableEq K] {key : BitVec 64 → K}
    {acc : GoMap K R} {P : BitVec 64 → Prop} {expected : BitVec 64 → R} {index : R → BitVec 64}
    (hidx : ∀ i, P i → index (expected i) = i)
    (hfind : ∀ k v, acc.find? k = some v ↔ ∃ i, key i = k ∧ P i ∧ v = expected i) :
    (acc.values.map index).Nodup ∧ (∀ i, i ∈ acc.values.map index ↔ P i) ∧
      ∀ v ∈ acc.values, v = expected (index v) := by
  have hval : ∀ v ∈ acc.values, ∃ i, P i ∧ v = expected i ∧ index v = i := by
    intro v hv
    obtain ⟨k, hk⟩ := (acc.mem_values_iff v).mp hv
    obtain ⟨i, -, hi, rfl⟩ := (hfind k v).mp hk
    exact ⟨i, hi, rfl, hidx i hi⟩
  refine ⟨acc.nodup_values_map index key fun e he => ?_, fun i => ⟨?_, ?_⟩, fun v hv => ?_⟩
  · obtain ⟨i, hk, hi, he2⟩ := (hfind e.1 e.2).mp ((acc.mem_entries_iff _ _).mp he)
    rw [he2, hidx i hi, hk]
  · intro hmem
    obtain ⟨v, hv, rfl⟩ := List.mem_map.mp hmem
    obtain ⟨j, hj, -, rfl⟩ := hval v hv
    exact hj
  · intro hi
    exact List.mem_map.mpr ⟨expected i, (acc.mem_values_iff _).mpr ⟨key i, (hfind _ _).mpr
      ⟨i, rfl, hi, rfl⟩⟩, hidx i hi⟩
  · obtain ⟨i, -, rfl, hv'⟩ := hval v hv
    rw [hv']

end Order

end GoNms.Zte
