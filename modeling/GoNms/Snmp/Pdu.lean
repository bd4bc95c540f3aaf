import Mathlib.Data.List.Basic

set_option autoImplicit false

/-! # The SNMP session the adapters talk to

`snmpclient.SNMPClient` is an interface (`Get`, `Walk`, `GetBulk`); the ZTE adapter only calls `Get`
and `Walk` on a connected session. A session is modelled by what those calls return: `get` maps the
requested OIDs to the packet's variables or an error, `walk` maps a base OID to the PDUs the walk
hands to its callback, in order, and the error it ends with, if any. A failing walk may deliver
some PDUs first; the adapters' callbacks never fail, so a walk always delivers all of its PDUs.

PDUs carry the dynamic Go type of their value, which is what `pduToInt` switches on. -/

namespace GoNms.Snmp

/-- The ASN.1 type of a PDU (`SnmpPDU.Type`); the code only ever tests for `OctetString`. -/
inductive Asn1BER where
  | octetString
  | other
  deriving DecidableEq, Repr

/-- The dynamic Go type and value of `SnmpPDU.Value` (64-bit `int` and `uint`). -/
inductive PduValue where
  | int (v : BitVec 64)
  | uint (v : BitVec 64)
  | uint32 (v : BitVec 32)
  | uint64 (v : BitVec 64)
  | int64 (v : BitVec 64)
  | bytes (b : List UInt8)
  | other
  deriving DecidableEq, Repr

/-- `gosnmp.SnmpPDU`: the OID it names, its ASN.1 type and its value. gosnmp pairs `OctetString`
with a `[]byte` value only, so the `pdu.Value.([]byte)` assertions of the adapter cannot fail. -/
structure SnmpPDU where
  name : String
  type : Asn1BER
  value : PduValue
  bytes_of_octetString : type = .octetString → ∃ b, value = .bytes b

/-- An `Integer` PDU, as gosnmp decodes one (the tests' `pduInt`). -/
def SnmpPDU.ofInt (name : String) (v : BitVec 64) : SnmpPDU :=
  ⟨name, .other, .int v, fun h => nomatch h⟩

/-- `pdu.Value.([]byte)` on an `OctetString` PDU. The structure's invariant makes the assertion
succeed there, so the second branch is never taken where the code asserts. -/
def SnmpPDU.octets (pdu : SnmpPDU) : List UInt8 :=
  match pdu.value with
  | .bytes b => b
  | _ => []

/-- What one `Walk(oid, fn)` does: the PDUs it hands to `fn`, in order, then its error, if any. -/
structure WalkResult where
  pdus : List SnmpPDU
  err : Option String

/-- A connected SNMP session as the adapters use it: `Get` and `Walk`. -/
structure SnmpSession where
  get : List String → Except String (List SnmpPDU)
  walk : String → WalkResult

end GoNms.Snmp
