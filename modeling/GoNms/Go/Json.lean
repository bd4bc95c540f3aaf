import GoNms.Go.Map
import GoNms.Go.Float
import Mathlib.Data.String.Basic

set_option autoImplicit false

/-! # `interface{}` values and `encoding/json`

The metric maps of the worker and the alert engine hold `interface{}` values, whose dynamic types
in the modelled code are `float64`, `int`, `int64`, `bool` and `string`. `json.Marshal` writes them
as JSON scalars, a `map[string]interface{}` as an object with its keys sorted, and `json.Unmarshal`
reads every JSON number into an `interface{}` as a `float64`.

JSON text is modelled by the values it denotes: a number by the exact value of its numeral. The
encoder writes a `float64` as the shortest numeral that reads back to it, and the model writes the
float's own value, which reads back to it as well; an integer is written exactly. NaN and the
infinities have no JSON form: `Marshal` fails with an `UnsupportedValueError`.

The round trip is exact except for the types: an encodable map reads back key for key, with every
integer turned into its `float64` (`unmarshalMap_marshalMap`). -/

namespace GoNms.Go

/-- A Go `interface{}` value, of the dynamic types the modelled maps hold. -/
inductive GoValue where
  | float64 (f : GoFloat)
  | int (i : BitVec 64)
  | int64 (i : BitVec 64)
  | bool (b : Bool)
  | string (s : String)
  deriving DecidableEq

/-- A JSON scalar; a number is the exact value of its numeral. -/
inductive JsonValue where
  | bool (b : Bool)
  | number (q : ℚ)
  | string (s : String)
  deriving DecidableEq

namespace GoValue

/-- Whether `json.Marshal` can write the value: anything but a NaN or infinite `float64`. -/
def Encodable : GoValue → Prop
  | .float64 f => f.isFinite = true
  | _ => True

instance : DecidablePred Encodable := fun v =>
  match v with
  | .float64 f => inferInstanceAs (Decidable (f.isFinite = true))
  | .int _ | .int64 _ | .bool _ | .string _ => isTrue trivial

/-- What a value reads back as after a JSON round trip: an integer becomes its `float64`. -/
def viaJson : GoValue → GoValue
  | .int i => .float64 (GoFloat.ofInt i.toInt)
  | .int64 i => .float64 (GoFloat.ofInt i.toInt)
  | v => v

end GoValue

/-- `json.Marshal` of one value. -/
def marshalValue : GoValue → Except String JsonValue
  | .float64 (.finite a) => .ok (.number a.val)
  | .float64 (.inf neg) => .error ("json: unsupported value: " ++ if neg then "-Inf" else "+Inf")
  | .float64 .nan => .error "json: unsupported value: NaN"
  | .int i => .ok (.number i.toInt)
  | .int64 i => .ok (.number i.toInt)
  | .bool b => .ok (.bool b)
  | .string s => .ok (.string s)

/-- `json.Unmarshal` of a scalar into an `interface{}`: a number through `ParseFloat`, which
fails past the `float64` range. Go's error quotes the numeral (`number 1e400`); a number is
modelled by its value, so the text leaves the numeral out. -/
def unmarshalValue : JsonValue → Except String GoValue
  | .bool b => .ok (.bool b)
  | .number q =>
      if (GoFloat.ofRat q).isFinite then .ok (.float64 (GoFloat.ofRat q))
      else .error "json: cannot unmarshal number into Go value of type float64"
  | .string s => .ok (.string s)

/-- `json.Marshal` of a `map[string]interface{}`: the members in key order, or the error of the
first value, in key order, that has no JSON form. -/
def marshalMap (m : GoMap String GoValue) : Except String (List (String × JsonValue)) :=
  (m.entries.mergeSort fun a b => decide (a.1 ≤ b.1)).mapM fun e => (e.1, ·) <$> marshalValue e.2

/-- `json.Unmarshal` of an object into a `map[string]interface{}`: the members in order, a later
one replacing an earlier one of the same key; the first error is the one returned. -/
def unmarshalMap (members : List (String × JsonValue)) : Except String (GoMap String GoValue) :=
  members.foldlM (fun m e => (m.insert e.1 ·) <$> unmarshalValue e.2) GoMap.empty

/-! ## Values -/

theorem marshalValue_of_encodable {v : GoValue} (hv : v.Encodable) :
    ∃ j, marshalValue v = .ok j ∧ unmarshalValue j = .ok v.viaJson := by
  have hint : ∀ i : BitVec 64, unmarshalValue (.number i.toInt) = .ok (.float64 (GoFloat.ofInt i.toInt)) :=
    fun i => by
      rw [unmarshalValue, GoFloat.ofInt, GoFloat.ofRat_of_abs_le (GoFloat.abs_toInt_le_maxFinite i)]
      rfl
  match v, hv with
  | .float64 (.finite a), _ =>
      refine ⟨.number a.val, rfl, ?_⟩
      have : GoFloat.ofRat a.val = .finite a := by
        rw [GoFloat.ofRat_of_abs_le a.bounded]; congr 1; exact Float64.ext a.rounded
      simp only [unmarshalValue, this]; rfl
  | .int i, _ => exact ⟨_, rfl, hint i⟩
  | .int64 i, _ => exact ⟨_, rfl, hint i⟩
  | .bool b, _ => exact ⟨_, rfl, rfl⟩
  | .string s, _ => exact ⟨_, rfl, rfl⟩

theorem marshalValue_of_not_encodable {v : GoValue} (hv : ¬ v.Encodable) :
    ∃ e, marshalValue v = .error e := by
  match v with
  | .float64 (.finite a) => exact absurd rfl hv
  | .float64 (.inf _) => exact ⟨_, rfl⟩
  | .float64 .nan => exact ⟨_, rfl⟩
  | .int _ | .int64 _ | .bool _ | .string _ => exact absurd trivial hv

/-! ## Maps -/

/-- An `Except` traversal whose every step succeeds. -/
theorem mapM_eq_ok {α β : Type} {f : α → Except String β} {g : α → β} :
    ∀ {l : List α}, (∀ x ∈ l, f x = .ok (g x)) → l.mapM f = .ok (l.map g)
  | [], _ => rfl
  | x :: l, h => by
      rw [List.mapM_cons, h x (List.mem_cons_self x l),
        mapM_eq_ok fun y hy => h y (List.mem_cons_of_mem x hy)]
      rfl

/-- An `Except` traversal with a failing step fails. -/
theorem mapM_eq_error {α β : Type} {f : α → Except String β} :
    ∀ {l : List α}, (∃ x ∈ l, ∃ e, f x = .error e) → ∃ e, l.mapM f = .error e
  | [], ⟨_, hx, _⟩ => absurd hx (List.not_mem_nil _)
  | x :: l, ⟨y, hy, e, he⟩ => by
      rw [List.mapM_cons]
      cases hx : f x with
      | error e' => exact ⟨e', rfl⟩
      | ok b =>
          rcases List.mem_cons.mp hy with rfl | hy
          · rw [he] at hx; cases hx
          · obtain ⟨e', he'⟩ := mapM_eq_error ⟨y, hy, e, he⟩
            exact ⟨e', by simp only [bind, Except.bind, he']⟩

/-- A map with a value that has no JSON form does not marshal. -/
theorem marshalMap_of_not_encodable {m : GoMap String GoValue} {k : String} {v : GoValue}
    (hk : m.find? k = some v) (hv : ¬ v.Encodable) : ∃ e, marshalMap m = .error e := by
  obtain ⟨e, he⟩ := marshalValue_of_not_encodable hv
  refine mapM_eq_error ⟨(k, v), List.mem_mergeSort.mpr ((GoMap.mem_entries_iff m k v).mpr hk), e, ?_⟩
  simp only [he]; rfl

/-- Marshalling entries and reading the members back into a map inserts the entries' values as
they read back after the round trip. -/
theorem foldlM_mapM_marshal : ∀ (l : List (String × GoValue)), (∀ e ∈ l, e.2.Encodable) →
    ∃ members, l.mapM (fun e => (e.1, ·) <$> marshalValue e.2) = .ok members ∧
      ∀ acc : GoMap String GoValue,
        members.foldlM (fun m e => (m.insert e.1 ·) <$> unmarshalValue e.2) acc =
          .ok (l.foldl (fun m e => m.insert e.1 e.2.viaJson) acc)
  | [], _ => ⟨[], rfl, fun _ => rfl⟩
  | e :: l, h => by
      obtain ⟨j, hj, hdec⟩ := marshalValue_of_encodable (h e (List.mem_cons_self e l))
      obtain ⟨members, hmap, hfold⟩ := foldlM_mapM_marshal l fun e he => h e (List.mem_cons_of_mem _ he)
      refine ⟨(e.1, j) :: members, ?_, fun acc => ?_⟩
      · simp only [List.mapM_cons, hj, hmap]; rfl
      · simp only [List.foldlM_cons, hdec, List.foldl_cons, ← hfold]; rfl

/-- An encodable map reads back key for key, every integer as its `float64`. -/
theorem unmarshalMap_marshalMap {m : GoMap String GoValue} (hm : ∀ v ∈ m.values, v.Encodable) :
    ∃ members m', marshalMap m = .ok members ∧ unmarshalMap members = .ok m' ∧
      ∀ k, m'.find? k = (m.find? k).map GoValue.viaJson := by
  let sorted := m.entries.mergeSort fun a b => decide (a.1 ≤ b.1)
  have hperm : sorted.Perm m.entries := List.mergeSort_perm _ _
  have hnodup : (sorted.map Prod.fst).Nodup := ((hperm.map Prod.fst).nodup_iff).mpr m.nodup
  obtain ⟨members, hmap, hfold⟩ := foldlM_mapM_marshal sorted fun e he =>
    hm e.2 (List.mem_map_of_mem _ (hperm.subset he))
  refine ⟨members, _, hmap, hfold GoMap.empty, fun k => ?_⟩
  have hmapped : sorted.foldl (fun m e => m.insert e.1 e.2.viaJson) GoMap.empty =
      (sorted.map fun e => (e.1, e.2.viaJson)).foldl (fun m e => m.insert e.1 e.2) GoMap.empty :=
    (List.foldl_map (fun e : String × GoValue => (e.1, e.2.viaJson))
      (fun (m : GoMap String GoValue) (e : String × GoValue) => m.insert e.1 e.2) _ _).symm
  rw [hmapped, GoMap.find?_foldl_insert _ (by rwa [List.map_map]) GoMap.empty k, GoMap.lookup_map,
    GoMap.lookup_perm hperm hnodup]
  change _ = Option.map _ (GoMap.lookup k m.entries)
  cases GoMap.lookup k m.entries <;> rfl

/-! ## Handler answers -/

/-- What a gin handler writes with `c.JSON(code, obj)`: the status code, and the body, either
`gin.H{"error": ...}` with the error's text or the value the handler answers with. -/
structure HandlerResponse (α : Type) where
  status : ℕ
  body : Except String α

end GoNms.Go
