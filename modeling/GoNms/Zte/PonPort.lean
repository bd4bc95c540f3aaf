import GoNms.Zte.Walk

set_option autoImplicit false

/-! # `GetPONPortMetrics`

The PON-port table method: five column walks filed by port index into `portsByIndex`. Its result
is determined for every walk content and every order in which `range` visits the column map: one
record per non-negative index that some PDU carries, with each field decoded from the last PDU of
its column at that index, or zero. A failing walk fails the method with nothing else returned. -/

namespace GoNms.Zte

open GoNms.Go GoNms.Snmp

/-- `PONPortMetrics` (its `Timestamp`, `time.Now()` at the call, is left out). `PONPortStatus` is
a Go `int`. -/
structure PONPortMetrics where
  deviceID : String
  portIndex : BitVec 64
  adminStatus : BitVec 64
  operStatus : BitVec 64
  txPowerDBm : GoFloat
  rxPowerDBm : GoFloat
  ontCount : BitVec 64
  deriving DecidableEq

/-- The column map `walkOIDs` of `GetPONPortMetrics`: base OID to setter. -/
def ponPortWalkOIDs : GoMap String (SnmpPDU → PONPortMetrics → PONPortMetrics) :=
  ⟨[(OIDZTEPONPortAdminStatus, fun pdu port => { port with adminStatus := pduToInt pdu }),
    (OIDZTEPONPortOperStatus, fun pdu port => { port with operStatus := pduToInt pdu }),
    (OIDZTEPONPortTxPower, fun pdu port => { port with txPowerDBm := powerDBm pdu }),
    (OIDZTEPONPortRxPower, fun pdu port => { port with rxPowerDBm := powerDBm pdu }),
    (OIDZTEPONPortONTCount, fun pdu port => { port with ontCount := pduToInt pdu })],
   by decide⟩

/-- The record `portsByIndex` gets for an index seen for the first time. -/
def freshPort (deviceID : String) (index : BitVec 64) : PONPortMetrics :=
  { deviceID, portIndex := index, adminStatus := 0, operStatus := 0, txPowerDBm := 0,
    rxPowerDBm := 0, ontCount := 0 }

/-- `GetPONPortMetrics`, when `range` visits `walkOIDs` in the order `order`. -/
def getPONPortMetrics (c : ZTEOLTClient)
    (order : List (String × (SnmpPDU → PONPortMetrics → PONPortMetrics))) :
    Except String (List PONPortMetrics) :=
  (walkColumns c.snmp (fun baseOID err => "failed to walk PON port OID " ++ baseOID ++ ": " ++ err)
    (indexInto id (freshPort c.device.id)) order GoMap.empty).map GoMap.values

/-- The port a PON-port table describes at index `i`: each column's field decoded from the last
PDU of its walk at `i` (`pduToInt`, divided by 10 for the two power columns), or zero. -/
def expectedPort (deviceID : String) (session : SnmpSession) (i : BitVec 64) : PONPortMetrics :=
  { deviceID, portIndex := i,
    adminStatus := ((lastAt session OIDZTEPONPortAdminStatus i).map pduToInt).getD 0,
    operStatus := ((lastAt session OIDZTEPONPortOperStatus i).map pduToInt).getD 0,
    txPowerDBm := ((lastAt session OIDZTEPONPortTxPower i).map
      fun pdu => GoFloat.ofInt (pduToInt pdu).toInt / 10).getD 0,
    rxPowerDBm := ((lastAt session OIDZTEPONPortRxPower i).map
      fun pdu => GoFloat.ofInt (pduToInt pdu).toInt / 10).getD 0,
    ontCount := ((lastAt session OIDZTEPONPortONTCount i).map pduToInt).getD 0 }

/-! ## The column map -/

/-- Each setter writes its own field. -/
theorem ponPortWalkOIDs_overwriting : Overwriting ponPortWalkOIDs.entries where
  absorb := by
    simp only [ponPortWalkOIDs, List.mem_cons, List.mem_singleton, List.not_mem_nil, or_false]
    rintro _ (rfl | rfl | rfl | rfl | rfl) <;> intros <;> rfl
  comm := by
    simp only [ponPortWalkOIDs, List.mem_cons, List.mem_singleton, List.not_mem_nil, or_false]
    rintro _ (rfl | rfl | rfl | rfl | rfl) _ (rfl | rfl | rfl | rfl | rfl) h <;>
      first | exact absurd rfl h | intros; rfl

/-- The columns' last calls build the described port. -/
theorem foldl_lastCall_ponPort (deviceID : String) (session : SnmpSession) (i : BitVec 64) :
    ponPortWalkOIDs.entries.foldl (lastCall session i) (freshPort deviceID i) =
      expectedPort deviceID session i := by
  simp only [ponPortWalkOIDs, List.foldl_cons, List.foldl_nil, lastCall, expectedPort]
  generalize lastAt session OIDZTEPONPortAdminStatus i = o1
  generalize lastAt session OIDZTEPONPortOperStatus i = o2
  generalize lastAt session OIDZTEPONPortTxPower i = o3
  generalize lastAt session OIDZTEPONPortRxPower i = o4
  generalize lastAt session OIDZTEPONPortONTCount i = o5
  cases o1 <;> cases o2 <;> cases o3 <;> cases o4 <;> cases o5 <;> rfl

/-! ## The result -/

/-- With every walk succeeding, whatever the walks return and whatever the visiting order,
`GetPONPortMetrics` returns one record per indexed port, namely the described port. -/
theorem getPONPortMetrics_records (c : ZTEOLTClient)
    (order : List (String × (SnmpPDU → PONPortMetrics → PONPortMetrics)))
    (hperm : order.Perm ponPortWalkOIDs.entries)
    (hok : ∀ o ∈ ponPortWalkOIDs.entries.map Prod.fst, (c.snmp.walk o).err = none) :
    ∃ ports, getPONPortMetrics c order = .ok ports ∧
      (ports.map PONPortMetrics.portIndex).Nodup ∧
      (∀ i, i ∈ ports.map PONPortMetrics.portIndex ↔
        Indexed c.snmp (ponPortWalkOIDs.entries.map Prod.fst) i) ∧
      ∀ port ∈ ports, port = expectedPort c.device.id c.snmp port.portIndex := by
  obtain ⟨acc, hrun, hfind⟩ := walkColumns_indexInto Function.injective_id
    (freshPort c.device.id) (fun baseOID err => "failed to walk PON port OID " ++ baseOID ++ ": " ++ err)
    ponPortWalkOIDs.nodup ponPortWalkOIDs_overwriting hperm
    (fun col hc => hok col.1 (List.mem_map_of_mem _ hc))
  simp only [foldl_lastCall_ponPort] at hfind
  exact ⟨acc.values, by rw [getPONPortMetrics, hrun]; rfl,
    values_of_find? (fun _ _ => rfl) hfind⟩

/-- An OLT whose every PON-port column has one row, for port `268632064`. -/
def onePortOLT : ZTEOLTClient :=
  ⟨⟨fun _ => .ok [], fun o => ⟨[SnmpPDU.ofInt (o ++ ".268632064") 1], none⟩⟩,
   ⟨"olt-1", "OLT-1", "10.0.0.2", DeviceTypeOLT, ProtocolSNMP, true, none⟩⟩

theorem getPONPortMetrics_records_onePortOLT :
    (ponPortWalkOIDs.entries.Perm ponPortWalkOIDs.entries ∧
      ∀ o ∈ ponPortWalkOIDs.entries.map Prod.fst, (onePortOLT.snmp.walk o).err = none) ∧
    ∃ ports, getPONPortMetrics onePortOLT ponPortWalkOIDs.entries = .ok ports ∧
      (ports.map PONPortMetrics.portIndex).Nodup ∧
      (∀ i, i ∈ ports.map PONPortMetrics.portIndex ↔
        Indexed onePortOLT.snmp (ponPortWalkOIDs.entries.map Prod.fst) i) ∧
      ∀ port ∈ ports, port = expectedPort onePortOLT.device.id onePortOLT.snmp port.portIndex :=
  ⟨⟨List.Perm.refl _, fun _ _ => rfl⟩,
    getPONPortMetrics_records onePortOLT _ (List.Perm.refl _) (fun _ _ => rfl)⟩

/-- A failing walk fails `GetPONPortMetrics` with the first failing column's error, wrapped. -/
theorem getPONPortMetrics_of_walk_err (c : ZTEOLTClient)
    (order : List (String × (SnmpPDU → PONPortMetrics → PONPortMetrics)))
    (hperm : order.Perm ponPortWalkOIDs.entries)
    (herr : ∃ o ∈ ponPortWalkOIDs.entries.map Prod.fst, (c.snmp.walk o).err ≠ none) :
    ∃ o err, (c.snmp.walk o).err = some err ∧
      getPONPortMetrics c order = .error ("failed to walk PON port OID " ++ o ++ ": " ++ err) := by
  obtain ⟨o, ho, hne⟩ := herr
  obtain ⟨col, hcol, rfl⟩ := List.mem_map.mp ho
  obtain ⟨col', -, err, he, hrun⟩ := @walkColumns_of_err _ _ c.snmp
    (fun baseOID err => "failed to walk PON port OID " ++ baseOID ++ ": " ++ err)
    (indexInto id (freshPort c.device.id)) order ⟨col, hperm.symm.subset hcol, hne⟩ GoMap.empty
  exact ⟨col'.1, err, he, by rw [getPONPortMetrics, hrun]; rfl⟩

end GoNms.Zte
