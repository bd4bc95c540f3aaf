import GoNms.Zte.Walk

set_option autoImplicit false

/-! # `GetONTMetrics`

The ONT table method: five column walks filed into `ontsByKey` under the decimal numeral of the
index. Its callback differs from the PON-port one in three ways: the key is a string, the record
it creates names the index in four fields, and PDUs of the serial-number column create a record
without calling their setter. That setter does nothing anyway, so on the columns of the map the
callback is the plain table callback (`ontCallback_eq_indexInto`), and the result follows from the
shared loop theorem: one record per non-negative index, whatever the walks return, the visiting
order or the `ponPortIndex` argument. -/

namespace GoNms.Zte

open GoNms.Go GoNms.Snmp

/-- `ONTMetrics` (its `Timestamp` is left out). `ONTStatus` is a Go `int`. -/
structure ONTMetrics where
  deviceID : String
  ponPortIndex : BitVec 64
  ontIndex : BitVec 64
  serialNumber : String
  operStatus : BitVec 64
  rxPowerDBm : GoFloat
  txPowerDBm : GoFloat
  distanceMeters : BitVec 64
  description : String
  deriving DecidableEq

/-- The column map `walkOIDs` of `GetONTMetrics`: base OID to setter. The serial-number setter is
a placeholder that sets nothing. -/
def ontWalkOIDs : GoMap String (SnmpPDU → ONTMetrics → ONTMetrics) :=
  ⟨[(OIDZTEONTSerialNumber, fun _ ont => ont),
    (OIDZTEONTOperStatus, fun pdu ont => { ont with operStatus := pduToInt pdu }),
    (OIDZTEONTRxPower, fun pdu ont => { ont with rxPowerDBm := powerDBm pdu }),
    (OIDZTEONTTxPower, fun pdu ont => { ont with txPowerDBm := powerDBm pdu }),
    (OIDZTEONTDistance, fun pdu ont => { ont with distanceMeters := pduToInt pdu })],
   by decide⟩

/-- The record `ontsByKey` gets for an index seen for the first time. The code first computes
packed PON-port and ONT sub-indices (`index >> 8 << 8`, `index & 0xFF`) and then overwrites both
with the index itself, so both fields hold the index. -/
def freshONT (deviceID : String) (index : BitVec 64) : ONTMetrics :=
  { deviceID, ponPortIndex := index, ontIndex := index, serialNumber := sprintfX index.toInt,
    operStatus := 0, rxPowerDBm := 0, txPowerDBm := 0, distanceMeters := 0,
    description := "ONT-" ++ sprintfD index.toInt }

/-- The walk callback of `GetONTMetrics` for the column `baseOID`: key the index by
`fmt.Sprintf("%d", index)`, create the record on first sight, and call the setter unless the
column is the serial-number one. (The code's `if ponPortIndex > 0` branch is empty.) -/
def ontCallback (deviceID : String) (baseOID : String) (setter : SnmpPDU → ONTMetrics → ONTMetrics)
    (acc : GoMap String ONTMetrics) (pdu : SnmpPDU) : GoMap String ONTMetrics :=
  let index := extractLastOIDIndex pdu.name baseOID
  if index.toInt < 0 then acc
  else
    acc.upsert (sprintfD index.toInt) (freshONT deviceID index)
      (fun ont => if baseOID = OIDZTEONTSerialNumber then ont else setter pdu ont)

/-- `GetONTMetrics(ctx, ponPortIndex)`, when `range` visits `walkOIDs` in the order `order`. -/
def getONTMetrics (c : ZTEOLTClient) (ponPortIndex : BitVec 64)
    (order : List (String × (SnmpPDU → ONTMetrics → ONTMetrics))) :
    Except String (List ONTMetrics) :=
  (walkColumns c.snmp (fun baseOID err => "failed to walk ONT OID " ++ baseOID ++ ": " ++ err)
    (ontCallback c.device.id) order GoMap.empty).map GoMap.values

/-- `GetAllONTMetrics`. -/
def getAllONTMetrics (c : ZTEOLTClient)
    (order : List (String × (SnmpPDU → ONTMetrics → ONTMetrics))) :
    Except String (List ONTMetrics) :=
  getONTMetrics c 0 order

/-- The ONT an ONT table describes at index `i`: the index in both index fields, its upper-case
hexadecimal numeral as serial number, `ONT-` and its decimal numeral as description, and each
column's field decoded from the last PDU of its walk at `i` (`pduToInt`, divided by 10 for the two
power columns), or zero. -/
def expectedONT (deviceID : String) (session : SnmpSession) (i : BitVec 64) : ONTMetrics :=
  { deviceID, ponPortIndex := i, ontIndex := i,
    serialNumber := ⟨(Nat.toDigits 16 i.toNat).map Char.toUpper⟩,
    operStatus := ((lastAt session OIDZTEONTOperStatus i).map pduToInt).getD 0,
    rxPowerDBm := ((lastAt session OIDZTEONTRxPower i).map
      fun pdu => GoFloat.ofInt (pduToInt pdu).toInt / 10).getD 0,
    txPowerDBm := ((lastAt session OIDZTEONTTxPower i).map
      fun pdu => GoFloat.ofInt (pduToInt pdu).toInt / 10).getD 0,
    distanceMeters := ((lastAt session OIDZTEONTDistance i).map pduToInt).getD 0,
    description := "ONT-" ++ ⟨Nat.toDigits 10 i.toNat⟩ }

/-! ## The callback and the column map -/

/-- Decimal numerals of Go integers are distinct. -/
theorem sprintfD_toInt_injective : Function.Injective fun i : BitVec 64 => sprintfD i.toInt :=
  fun _ _ h => BitVec.toInt_inj.mp (sprintfD_injective h)

/-- The serial-number branch changes nothing: on every column of the map, the callback is the
plain table callback keyed by the decimal numeral. -/
theorem ontCallback_eq_indexInto (deviceID : String) :
    ∀ c ∈ ontWalkOIDs.entries, ontCallback deviceID c.1 c.2 =
      indexInto (fun i => sprintfD i.toInt) (freshONT deviceID) c.1 c.2 := by
  simp only [ontWalkOIDs, List.mem_cons, List.mem_singleton, List.not_mem_nil, or_false]
  rintro _ (rfl | rfl | rfl | rfl | rfl) <;> rfl

/-- Each setter writes its own field. -/
theorem ontWalkOIDs_overwriting : Overwriting ontWalkOIDs.entries where
  absorb := by
    simp only [ontWalkOIDs, List.mem_cons, List.mem_singleton, List.not_mem_nil, or_false]
    rintro _ (rfl | rfl | rfl | rfl | rfl) <;> intros <;> rfl
  comm := by
    simp only [ontWalkOIDs, List.mem_cons, List.mem_singleton, List.not_mem_nil, or_false]
    rintro _ (rfl | rfl | rfl | rfl | rfl) _ (rfl | rfl | rfl | rfl | rfl) h <;>
      first | exact absurd rfl h | intros; rfl

theorem natAbs_toInt_of_nonneg {i : BitVec 64} (h : 0 ≤ i.toInt) : i.toInt.natAbs = i.toNat := by
  have := i.isLt
  rw [BitVec.toInt_eq_toNat_cond] at h ⊢
  by_cases hc : 2 * i.toNat < 2 ^ 64 <;> simp only [hc, if_true, if_false] at h ⊢ <;> omega

/-- The columns' last calls build the described ONT, for a non-negative index. -/
theorem foldl_lastCall_ont (deviceID : String) (session : SnmpSession) {i : BitVec 64}
    (hi : 0 ≤ i.toInt) :
    ontWalkOIDs.entries.foldl (lastCall session i) (freshONT deviceID i) =
      expectedONT deviceID session i := by
  have hX : sprintfX i.toInt = ⟨(Nat.toDigits 16 i.toNat).map Char.toUpper⟩ := by
    simp [sprintfX, natAbs_toInt_of_nonneg hi, not_lt.mpr hi]
  have hD : sprintfD i.toInt = ⟨Nat.toDigits 10 i.toNat⟩ := by
    simp [sprintfD, natAbs_toInt_of_nonneg hi, not_lt.mpr hi]
  simp only [ontWalkOIDs, List.foldl_cons, List.foldl_nil, lastCall, expectedONT, freshONT, hX, hD]
  generalize lastAt session OIDZTEONTSerialNumber i = o1
  generalize lastAt session OIDZTEONTOperStatus i = o2
  generalize lastAt session OIDZTEONTRxPower i = o3
  generalize lastAt session OIDZTEONTTxPower i = o4
  generalize lastAt session OIDZTEONTDistance i = o5
  cases o1 <;> cases o2 <;> cases o3 <;> cases o4 <;> cases o5 <;> rfl

/-! ## The result -/

/-- With every walk succeeding, whatever the walks return, whatever the visiting order and
whatever `ponPortIndex` is, `GetONTMetrics` returns one record per indexed ONT, namely the
described ONT, and the same list for every `ponPortIndex`. -/
theorem getONTMetrics_records (c : ZTEOLTClient) (ponPortIndex : BitVec 64)
    (order : List (String × (SnmpPDU → ONTMetrics → ONTMetrics)))
    (hperm : order.Perm ontWalkOIDs.entries)
    (hok : ∀ o ∈ ontWalkOIDs.entries.map Prod.fst, (c.snmp.walk o).err = none) :
    ∃ onts, getONTMetrics c ponPortIndex order = .ok onts ∧
      (∀ p, getONTMetrics c p order = .ok onts) ∧
      (onts.map ONTMetrics.ontIndex).Nodup ∧
      (∀ i, i ∈ onts.map ONTMetrics.ontIndex ↔
        Indexed c.snmp (ontWalkOIDs.entries.map Prod.fst) i) ∧
      ∀ ont ∈ onts, ont = expectedONT c.device.id c.snmp ont.ontIndex := by
  let wrap := fun baseOID err => "failed to walk ONT OID " ++ baseOID ++ ": " ++ err
  have hcb : walkColumns c.snmp wrap (ontCallback c.device.id) order GoMap.empty =
      walkColumns c.snmp wrap (indexInto (fun i => sprintfD i.toInt) (freshONT c.device.id)) order
        GoMap.empty :=
    walkColumns_congr (fun col hc => ontCallback_eq_indexInto _ col (hperm.subset hc)) _
  obtain ⟨acc, hrun, hfind⟩ := walkColumns_indexInto sprintfD_toInt_injective
    (freshONT c.device.id) wrap ontWalkOIDs.nodup ontWalkOIDs_overwriting hperm
    (fun col hc => hok col.1 (List.mem_map_of_mem _ hc))
  have hfind' : ∀ k v, acc.find? k = some v ↔ ∃ i, sprintfD i.toInt = k ∧
      Indexed c.snmp (ontWalkOIDs.entries.map Prod.fst) i ∧ v = expectedONT c.device.id c.snmp i := by
    intro k v
    rw [hfind]
    refine exists_congr fun i => and_congr_right fun _ => ?_
    exact ⟨fun ⟨hi, hv⟩ => ⟨hi, hv.trans (foldl_lastCall_ont _ _ hi.1)⟩,
      fun ⟨hi, hv⟩ => ⟨hi, hv.trans (foldl_lastCall_ont _ _ hi.1).symm⟩⟩
  have hres : ∀ p, getONTMetrics c p order = .ok acc.values := fun p => by
    rw [getONTMetrics, hcb, hrun]; rfl
  exact ⟨acc.values, hres ponPortIndex, hres, values_of_find? (fun _ _ => rfl) hfind'⟩

/-- An OLT whose every ONT column has one row, for ONT `268435456`. -/
def oneOntOLT : ZTEOLTClient :=
  ⟨⟨fun _ => .ok [], fun o => ⟨[SnmpPDU.ofInt (o ++ ".268435456") 1], none⟩⟩,
   ⟨"olt-1", "OLT-1", "10.0.0.2", DeviceTypeOLT, ProtocolSNMP, true, none⟩⟩

theorem getONTMetrics_records_oneOntOLT :
    (ontWalkOIDs.entries.Perm ontWalkOIDs.entries ∧
      ∀ o ∈ ontWalkOIDs.entries.map Prod.fst, (oneOntOLT.snmp.walk o).err = none) ∧
    ∃ onts, getONTMetrics oneOntOLT 0 ontWalkOIDs.entries = .ok onts ∧
      (∀ p, getONTMetrics oneOntOLT p ontWalkOIDs.entries = .ok onts) ∧
      (onts.map ONTMetrics.ontIndex).Nodup ∧
      (∀ i, i ∈ onts.map ONTMetrics.ontIndex ↔
        Indexed oneOntOLT.snmp (ontWalkOIDs.entries.map Prod.fst) i) ∧
      ∀ ont ∈ onts, ont = expectedONT oneOntOLT.device.id oneOntOLT.snmp ont.ontIndex :=
  ⟨⟨List.Perm.refl _, fun _ _ => rfl⟩,
    getONTMetrics_records oneOntOLT 0 _ (List.Perm.refl _) (fun _ _ => rfl)⟩

/-- A failing walk fails `GetONTMetrics` with the first failing column's error, wrapped. -/
theorem getONTMetrics_of_walk_err (c : ZTEOLTClient) (ponPortIndex : BitVec 64)
    (order : List (String × (SnmpPDU → ONTMetrics → ONTMetrics)))
    (hperm : order.Perm ontWalkOIDs.entries)
    (herr : ∃ o ∈ ontWalkOIDs.entries.map Prod.fst, (c.snmp.walk o).err ≠ none) :
    ∃ o err, (c.snmp.walk o).err = some err ∧
      getONTMetrics c ponPortIndex order = .error ("failed to walk ONT OID " ++ o ++ ": " ++ err) := by
  obtain ⟨o, ho, hne⟩ := herr
  obtain ⟨col, hcol, rfl⟩ := List.mem_map.mp ho
  obtain ⟨col', -, err, he, hrun⟩ := @walkColumns_of_err _ _ c.snmp
    (fun baseOID err => "failed to walk ONT OID " ++ baseOID ++ ": " ++ err)
    (ontCallback c.device.id) order ⟨col, hperm.symm.subset hcol, hne⟩ GoMap.empty
  exact ⟨col'.1, err, he, by rw [getONTMetrics, hrun]; rfl⟩

end GoNms.Zte
