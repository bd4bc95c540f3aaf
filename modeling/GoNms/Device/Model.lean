import GoNms.Go.Strings

set_option autoImplicit false

/-! # Devices

The device record of `internal/device/model`, with the fields that the modelled code reads: the
scheduler reads the identity, address, type, protocol and `Enabled` flag, and the RouterOS client
dials with the username and password of the credentials. `DeviceType` and `Protocol` are Go string
types, so any string inhabits them; the named constants are the values the code compares with.

`StringArray`, the type of the `Tags` column, writes itself to the database as `{` + the elements
joined by `,` + `}` and reads itself back by trimming braces and splitting at commas. The round
trip restores a list exactly when its elements hold no comma, the joined text neither starts nor
ends with a brace, and it is not the one-element list `[""]` (`scan_value_iff`). -/

namespace GoNms

/-- `DeviceCredentials`, with the two fields `MikrotikClient.Connect` dials with. -/
structure DeviceCredentials where
  username : String
  passwordEncrypted : String
  deriving DecidableEq, Repr

/-- `Device`. `credentials` is `nil` until the repository loads the relation. -/
structure Device where
  id : String
  name : String
  ipAddress : String
  deviceType : String
  protocol : String
  enabled : Bool
  credentials : Option DeviceCredentials
  deriving DecidableEq, Repr

def DeviceTypeRouter : String := "router"
def DeviceTypeSwitch : String := "switch"
def DeviceTypeOLT : String := "olt"
def DeviceTypeONT : String := "ont"
def DeviceTypeAP : String := "access_point"
def DeviceTypeWireless : String := "wireless"

def ProtocolMikrotikAPI : String := "mikrotik_api"
def ProtocolSSH : String := "ssh"
def ProtocolTelnet : String := "telnet"
def ProtocolTR069 : String := "tr069"
def ProtocolSNMP : String := "snmp"

def DeviceStatusOnline : String := "online"
def DeviceStatusOffline : String := "offline"
def DeviceStatusUnknown : String := "unknown"
def DeviceStatusWarning : String := "warning"
def DeviceStatusError : String := "error"

/-! ## `StringArray` -/

open GoNms.Go

/-- `StringArray`: `none` is the `nil` slice, which `Value` and `Scan` treat apart from the empty
one. -/
def StringArray : Type := Option (List String)

/-- The value `database/sql` hands to `Scan`: `NULL`, a string, a `[]byte` (here the UTF-8 bytes of
a string), or a value of another type. -/
inductive ScanSource where
  | null
  | string (s : String)
  | bytes (s : String)
  | other

/-- The value a column written with `Value`'s result reads back as. -/
def ScanSource.ofValue : Option String → ScanSource
  | none => .null
  | some s => .string s

instance : DecidableEq StringArray := inferInstanceAs (DecidableEq (Option (List String)))

/-- `StringArray.Value` (its error is always `nil`). -/
def StringArray.value : StringArray → Option String
  | none => none
  | some s => some ("\x7b" ++ join s "," ++ "\x7d")

/-- `StringArray.Scan`. -/
def StringArray.scan : ScanSource → Except String StringArray
  | .null => .ok none
  | .other => .error "type assertion to string/[]byte failed"
  | .string str | .bytes str =>
      let str := trim str "{}"
      if str = "" then .ok (some []) else .ok (some (split str ','))

/-- The lists `Scan` restores from what `Value` wrote: the empty list, and every list whose joined
text is not empty, neither starts nor ends with a brace, and whose elements hold no comma. -/
def RoundTrips (xs : List String) : Prop :=
  xs = [] ∨ (join xs "," ≠ "" ∧ (∀ c ∈ (join xs ",").data.head?, c ∉ ['{', '}']) ∧
    (∀ c ∈ (join xs ",").data.getLast?, c ∉ ['{', '}']) ∧ ∀ x ∈ xs, ',' ∉ x.data)

instance (xs : List String) : Decidable (RoundTrips xs) := inferInstanceAs (Decidable (_ ∨ _))

/-- `Scan` reads `Value`'s text back as the trimmed joined elements. -/
theorem scan_value_some (xs : List String) :
    StringArray.scan (.ofValue (StringArray.value (some xs))) =
      if trim (join xs ",") "{}" = "" then .ok (some [])
      else .ok (some (split (trim (join xs ",") "{}") ',')) := by
  have hwrap : "\x7b" ++ join xs "," ++ "\x7d" = ⟨'{' :: (join xs ",").data ++ ['}']⟩ := by
    apply String.ext; simp
  simp only [StringArray.value, ScanSource.ofValue, StringArray.scan, hwrap]
  rw [trim_wrap _ _ (by decide) (by decide)]

/-- `Scan` applied to `Value`'s result restores the array exactly when it is `nil` or a list the
round trip restores. -/
theorem scan_value_iff (xs : StringArray) :
    StringArray.scan (.ofValue xs.value) = .ok xs ↔ ∀ l, xs = some l → RoundTrips l := by
  match xs with
  | none => exact ⟨fun _ _ h => (nomatch h), fun _ => rfl⟩
  | some l =>
      have hjoin : join l "," = String.intercalate (String.singleton ',') l := rfl
      have hbraces : (['{', '}'] : List Char) = "{}".data := rfl
      rw [scan_value_some]
      constructor
      · intro h l' hl'
        cases hl'
        split at h
        · next htrim =>
            cases h
            exact Or.inl rfl
        · next htrim =>
            have hl : split (trim (join l ",") "{}") ',' = l := Option.some.inj (Except.ok.inj h)
            have htrim_eq : trim (join l ",") "{}" = join l "," := by
              conv_rhs => rw [← hl]
              exact (join_split _ _).symm
            refine Or.inr ⟨by rwa [htrim_eq] at htrim, ?_⟩
            rw [hbraces, ← and_assoc, ← trim_eq_self_iff]
            exact ⟨htrim_eq, fun x hx => not_mem_of_mem_split (by rw [hl]; exact hx)⟩
      · intro h
        rcases h l rfl with rfl | ⟨hne, hhead, hlast, hcomma⟩
        · rfl
        · rw [hbraces] at hhead hlast
          have htrim := (trim_eq_self_iff _ _).mpr ⟨hhead, hlast⟩
          have hl : l ≠ [] := by rintro rfl; exact hne rfl
          rw [htrim, if_neg hne, hjoin, split_intercalate ',' hl hcomma]

/-- A tag holding a comma reads back as two tags. -/
theorem scan_value_comma :
    StringArray.scan (.ofValue (StringArray.value (some ["a,b"]))) = .ok (some ["a", "b"]) :=
  rfl

/-! ## The table row -/

/-- A row of the `devices` table: `Device` with the columns that the repository's queries and the
services' writes use beyond `Device`'s fields. `LastSeen` is a nanosecond time stamp, `nil` for a
device never seen. -/
structure DeviceRow extends Device where
  status : String
  pollingInterval : BitVec 64
  groupID : Option String
  description : String
  tags : StringArray
  lastSeen : Option ℤ
  deriving DecidableEq

end GoNms
