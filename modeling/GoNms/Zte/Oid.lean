import GoNms.Go.Fmt
import GoNms.Snmp.Pdu

set_option autoImplicit false

/-! # ZTE C320 OIDs and PDU decoding

The OID constants of the adapter, its two PDU decoders, and `extractLastOIDIndex`, which turns a
walked OID into the table index the adapter keys its records by.

`extractLastOIDIndex` is the inverse of OID construction: under any base, the OID
`b.c₁.….cₖ` yields `cₖ` for every 63-bit component, with or without a leading dot on either side;
and every OID outside `b.`'s subtree is rejected with -1, sibling columns whose OID merely starts
with the same text included. -/

namespace GoNms.Zte

open GoNms.Go GoNms.Snmp

/-! ## OIDs -/

def OIDSysDescr : String := "1.3.6.1.2.1.1.1.0"
def OIDSysUpTime : String := "1.3.6.1.2.1.1.3.0"
def OIDSysName : String := "1.3.6.1.2.1.1.5.0"

def OIDZTECardCPUUsage : String := "1.3.6.1.4.1.3902.1015.2.1.1.3.1.9.1.1"
def OIDZTECardTemperature : String := "1.3.6.1.4.1.3902.1015.2.1.1.3.1.8.1.1"
def OIDZTECardMemoryUsage : String := "1.3.6.1.4.1.3902.1015.2.1.1.3.1.11.1.1"
def OIDZTECardMemoryTotal : String := "1.3.6.1.4.1.3902.1015.2.1.1.3.1.19.1.1"

def OIDZTEPONPortAdminStatus : String := "1.3.6.1.4.1.3902.1015.3.1.2.1.3"
def OIDZTEPONPortOperStatus : String := "1.3.6.1.4.1.3902.1015.3.1.2.1.4"
def OIDZTEPONPortTxPower : String := "1.3.6.1.4.1.3902.1015.3.1.3.1.12"
def OIDZTEPONPortRxPower : String := "1.3.6.1.4.1.3902.1015.3.1.3.1.10"
def OIDZTEPONPortONTCount : String := "1.3.6.1.4.1.3902.1015.3.1.3.1.13"

def OIDZTEONTOperStatus : String := "1.3.6.1.4.1.3902.1015.3.1.13.1.3"
def OIDZTEONTDistance : String := "1.3.6.1.4.1.3902.1015.3.1.13.1.4"
def OIDZTEONTRxPower : String := "1.3.6.1.4.1.3902.1015.3.1.13.1.5"
def OIDZTEONTTxPower : String := "1.3.6.1.4.1.3902.1015.3.1.13.1.6"
def OIDZTEONTSerialNumber : String := "1.3.6.1.4.1.3902.1015.3.1.13.1.1"

/-! ## PDU decoding -/

/-- `pduToInt`: an integer-typed PDU value as a Go `int`, 0 for every other type. -/
def pduToInt (pdu : SnmpPDU) : BitVec 64 :=
  match pdu.value with
  | .int v => v
  | .uint v => v
  | .uint32 v => v.setWidth 64
  | .uint64 v => v
  | .int64 v => v
  | _ => 0

/-- `pduToUint32`, used for TimeTicks. -/
def pduToUint32 (pdu : SnmpPDU) : BitVec 32 :=
  match pdu.value with
  | .uint32 v => v
  | .uint v => v.setWidth 32
  | .int v => v.setWidth 32
  | _ => 0

/-- The tail of `extractLastOIDIndex`: the last dot-separated component of `suffix` scanned with
`%d`, or -1 when it does not scan. -/
def scanLastComponent (suffix : String) : BitVec 64 :=
  match (split suffix '.').getLast? with
  | none => -1
  | some last =>
      match sscanInt last with
      | .ok index => BitVec.ofInt 64 index
      | .error _ => -1

/-- `extractLastOIDIndex(oid, baseOID)`: strip one leading dot from both, require `oid` to start
with `baseOID + "."`, and scan the last component of the rest; -1 when the OID is not under the
base or the component does not scan. -/
def extractLastOIDIndex (oid baseOID : String) : BitVec 64 :=
  let oid := trimPrefix oid "."
  let baseOID := trimPrefix baseOID "."
  let suffix := trimPrefix oid (baseOID ++ ".")
  if suffix = oid then -1 else scanLastComponent suffix

/-! ## Decoding what construction encodes -/

theorem extractLastOIDIndex_of_not_prefix {o b : String}
    (h : ¬ (trimPrefix b "." ++ ".").data <+: (trimPrefix o ".").data) :
    extractLastOIDIndex o b = -1 := by
  simp [extractLastOIDIndex, trimPrefix_of_not_prefix h]

theorem extractLastOIDIndex_of_prefix {o b : String} (rest : List Char)
    (h : (trimPrefix o ".").data = (trimPrefix b "." ++ ".").data ++ rest) :
    extractLastOIDIndex o b = scanLastComponent ⟨rest⟩ := by
  have hne : (⟨rest⟩ : String) ≠ trimPrefix o "." := by
    intro heq
    have := congrArg (fun s : String => s.data.length) heq
    simp only [h, List.length_append, String.data_append] at this
    simp at this
  simp only [extractLastOIDIndex, trimPrefix_of_data_eq h, if_neg hne]

/-- Scanning the last of a list of numerals joined by dots gives the last number back. -/
theorem scanLastComponent_intercalate {cs : List ℕ} (hcs : cs ≠ []) (hlt : ∀ c ∈ cs, c < 2 ^ 63) :
    scanLastComponent (String.intercalate "." (cs.map toString)) =
      BitVec.ofNat 64 (cs.getLast hcs) := by
  have hsplit : split (String.intercalate (String.singleton '.') (cs.map toString)) '.' =
      cs.map toString := by
    apply split_intercalate '.' (by simpa using hcs)
    simp only [List.mem_map]
    rintro _ ⟨c, -, rfl⟩ hdot
    exact absurd (toDigits_plainDigit c '.' hdot).2 (by decide)
  have hlast : (cs.map toString).getLast? = some (toString (cs.getLast hcs)) := by
    rw [List.getLast?_eq_getLast _ (by simpa using hcs), List.getLast_map]
  rw [scanLastComponent, show (".": String) = String.singleton '.' from rfl, hsplit, hlast]
  simp only
  rw [show toString (cs.getLast hcs) = ⟨Nat.toDigits 10 (cs.getLast hcs)⟩ from rfl,
    sscanInt_toDigits (hlt _ (List.getLast_mem hcs))]
  simp

/-- `extractLastOIDIndex` decodes what OID construction encodes, and rejects every OID outside
the base's subtree. -/
theorem extractLastOIDIndex_decodes :
    (∀ (b : String) (cs : List ℕ) (hcs : cs ≠ []) (dotOid dotBase : Bool),
      b ≠ "" → b.data.head? ≠ some '.' → (∀ c ∈ cs, c < 2 ^ 63) →
      extractLastOIDIndex
          ((if dotOid then "." else "") ++ b ++ "." ++ String.intercalate "." (cs.map toString))
          ((if dotBase then "." else "") ++ b) = BitVec.ofNat 64 (cs.getLast hcs)) ∧
    (∀ o b : String, ¬ (trimPrefix b "." ++ ".").data <+: (trimPrefix o ".").data →
      extractLastOIDIndex o b = -1) := by
  refine ⟨fun b cs hcs dotOid dotBase hb hdot hlt => ?_,
    fun o b h => extractLastOIDIndex_of_not_prefix h⟩
  -- stripping the optional dot leaves any string that starts like `b`
  have hstrip : ∀ (d : Bool) (s : String), s.data.head? = b.data.head? →
      trimPrefix ((if d then "." else "") ++ s) "." = s := by
    intro d s hs
    cases d
    · apply trimPrefix_of_not_prefix
      rintro ⟨t, ht⟩
      have h2 : s.data = '.' :: t := by simpa using ht.symm
      rw [h2] at hs
      exact hdot (by simpa using hs.symm)
    · exact trimPrefix_append
  have hbne : b.data ≠ [] := fun h => hb (String.ext (by simpa using h))
  have hhead : ∀ x : String, (b ++ x).data.head? = b.data.head? := fun x => by
    simp [List.head?_append_of_ne_nil _ hbne]
  rw [String.append_assoc, String.append_assoc,
    extractLastOIDIndex_of_prefix (String.intercalate "." (cs.map toString)).data]
  · exact scanLastComponent_intercalate hcs hlt
  · rw [hstrip dotOid _ (hhead _), hstrip dotBase b rfl]; simp

end GoNms.Zte
