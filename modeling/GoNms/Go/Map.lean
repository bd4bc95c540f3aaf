import Mathlib.Data.List.Nodup

set_option autoImplicit false

/-! # Go maps

A Go map is modelled by its entries in insertion order, with the distinctness of the keys carried
by the structure, so that no map with a repeated key can be built. Go's `range` visits the entries
in an unspecified order that changes from run to run; where the order matters to a result (the
column maps of the SNMP adapter) the model takes it as a parameter, and where it does not (the
record lists the adapter returns) `values` lists them in insertion order.

Every lemma about maps goes through `find?`: the operations are specified by what they do to
each key. -/

namespace GoNms.Go

/-- A Go `map[K]V`: entries with pairwise distinct keys. -/
structure GoMap (K V : Type) where
  entries : List (K × V)
  nodup : (entries.map Prod.fst).Nodup

namespace GoMap

variable {K V : Type}

/-- `make(map[K]V)`. -/
def empty : GoMap K V := ⟨[], List.nodup_nil⟩

/-- The values of the map, in insertion order. -/
def values (m : GoMap K V) : List V := m.entries.map Prod.snd

/-- Values that name their own key (through `key`) have pairwise distinct names. -/
theorem nodup_values_map {K' : Type} (m : GoMap K V) (g : V → K') (key : K' → K)
    (h : ∀ e ∈ m.entries, key (g e.2) = e.1) : (m.values.map g).Nodup := by
  rw [values, List.map_map]
  refine m.nodup.of_map Prod.fst |>.map_on fun x hx y hy hxy => ?_
  exact List.inj_on_of_nodup_map m.nodup hx hy (by rw [← h x hx, ← h y hy]; simpa using congrArg key hxy)

/-- An order in which `range` may visit the map: a permutation of its entries. -/
structure RangeOrder (m : GoMap K V) where
  entries : List (K × V)
  perm : entries.Perm m.entries

/-- The order of insertion, one of the orders `range` may take. -/
def RangeOrder.insertion (m : GoMap K V) : RangeOrder m := ⟨m.entries, List.Perm.refl _⟩

variable [DecidableEq K]

/-- The value under a key of an entry list. -/
def lookup (k : K) : List (K × V) → Option V
  | [] => none
  | (k', v) :: rest => if k' = k then some v else lookup k rest

/-- `v, ok := m[k]`, as an option. -/
def find? (m : GoMap K V) (k : K) : Option V := lookup k m.entries

/-- Replace the value of each entry under `k` by `f` of it. -/
def mapAt (k : K) (f : V → V) : List (K × V) → List (K × V)
  | [] => []
  | (k', v) :: rest => (k', if k' = k then f v else v) :: mapAt k f rest

theorem mapAt_keys (k : K) (f : V → V) (l : List (K × V)) :
    (mapAt k f l).map Prod.fst = l.map Prod.fst := by
  induction l with
  | nil => rfl
  | cons e rest ih => simp [mapAt, ih]

/-- `m[k] = f(m[k])`, where a missing `k` reads as `fresh`: the create-on-first-sight update of
the adapter's accumulators. -/
def upsert (m : GoMap K V) (k : K) (fresh : V) (f : V → V) : GoMap K V :=
  if hk : k ∈ m.entries.map Prod.fst then ⟨mapAt k f m.entries, by rw [mapAt_keys]; exact m.nodup⟩
  else ⟨m.entries ++ [(k, f fresh)], by
    rw [List.map_append]
    exact m.nodup.append (by simp) (by simpa using hk)⟩

/-- `m[k] = v`. -/
def insert (m : GoMap K V) (k : K) (v : V) : GoMap K V := m.upsert k v (fun _ => v)

/-! ## `find?` of each operation -/

@[simp]
theorem find?_empty (k : K) : (empty : GoMap K V).find? k = none := rfl

theorem lookup_eq_none {k : K} {l : List (K × V)} : lookup k l = none ↔ k ∉ l.map Prod.fst := by
  induction l with
  | nil => simp [lookup]
  | cons e rest ih =>
      obtain ⟨k', v⟩ := e
      by_cases h : k' = k
      · simp [lookup, h]
      · simp [lookup, h, Ne.symm h, ih]

theorem lookup_eq_some {k : K} {v : V} {l : List (K × V)} (hl : (l.map Prod.fst).Nodup) :
    lookup k l = some v ↔ (k, v) ∈ l := by
  induction l with
  | nil => simp [lookup]
  | cons e rest ih =>
      obtain ⟨k', w⟩ := e
      rw [List.map_cons, List.nodup_cons] at hl
      by_cases h : k' = k
      · subst h
        have : ∀ x, (k', x) ∉ rest := fun x hx => hl.1 (by simpa using List.mem_map_of_mem Prod.fst hx)
        simp [lookup, this, eq_comm]
      · simp [lookup, h, ih hl.2, Ne.symm h]

theorem lookup_mapAt (k k' : K) (f : V → V) (l : List (K × V)) :
    lookup k' (mapAt k f l) = if k' = k then (lookup k l).map f else lookup k' l := by
  induction l with
  | nil => split <;> rfl
  | cons e rest ih =>
      obtain ⟨k'', v⟩ := e
      by_cases h1 : k'' = k' <;> by_cases h3 : k' = k
      · subst h1 h3; simp [lookup, mapAt]
      · simp [lookup, mapAt, h1, h3, ih]
      · subst h3; simp [lookup, mapAt, h1, ih]
      · simp [lookup, mapAt, h1, h3, ih]

theorem lookup_append_singleton (k k' : K) (v : V) (l : List (K × V)) :
    lookup k' (l ++ [(k, v)]) = (lookup k' l).orElse (fun _ => if k = k' then some v else none) := by
  induction l with
  | nil => simp [lookup]
  | cons e rest ih =>
      obtain ⟨k'', w⟩ := e
      by_cases h : k'' = k' <;> simp [lookup, h, ih]

/-- The one lemma every map proof goes through. -/
theorem find?_upsert (m : GoMap K V) (k k' : K) (fresh : V) (f : V → V) :
    (m.upsert k fresh f).find? k' =
      if k' = k then some (f ((m.find? k).getD fresh)) else m.find? k' := by
  unfold upsert find?
  split
  · next hk =>
      rw [lookup_mapAt]
      split
      · next h =>
          subst h
          obtain ⟨v, hv⟩ := Option.ne_none_iff_exists'.mp (mt lookup_eq_none.mp (not_not.mpr hk))
          simp [hv]
      · rfl
  · next hk =>
      rw [lookup_append_singleton]
      have hnone := lookup_eq_none.mpr hk
      by_cases h : k' = k
      · subst h; simp [hnone]
      · cases hl : lookup k' m.entries <;> simp [Ne.symm h, h]

theorem find?_insert (m : GoMap K V) (k k' : K) (v : V) :
    (m.insert k v).find? k' = if k' = k then some v else m.find? k' := by
  simp [insert, find?_upsert]

theorem mem_entries_iff (m : GoMap K V) (k : K) (v : V) : (k, v) ∈ m.entries ↔ m.find? k = some v :=
  (lookup_eq_some m.nodup).symm

theorem mem_values_iff (m : GoMap K V) (v : V) : v ∈ m.values ↔ ∃ k, m.find? k = some v := by
  simp [values, find?, lookup_eq_some m.nodup]

theorem lookup_map {W : Type} (k : K) (f : V → W) (l : List (K × V)) :
    lookup k (l.map fun e => (e.1, f e.2)) = (lookup k l).map f := by
  induction l with
  | nil => rfl
  | cons e rest ih => by_cases h : e.1 = k <;> simp [lookup, h, ih]

/-- On keys without repeats, the order of the entries does not matter. -/
theorem lookup_perm {k : K} {l l' : List (K × V)} (h : l.Perm l') (hl : (l.map Prod.fst).Nodup) :
    lookup k l = lookup k l' := by
  have hl' : (l'.map Prod.fst).Nodup := (h.map Prod.fst).nodup_iff.mp hl
  cases hk : lookup k l' with
  | none => rw [lookup_eq_none, (h.map Prod.fst).mem_iff, ← lookup_eq_none, hk]
  | some v => rw [lookup_eq_some hl, h.mem_iff, ← lookup_eq_some hl', hk]

/-- `for k, v := range src { m[k] = v }`: on distinct keys, a key of the source reads its value
there, any other key reads `m`. -/
theorem find?_foldl_insert (l : List (K × V)) (hl : (l.map Prod.fst).Nodup) (m : GoMap K V)
    (k : K) : (l.foldl (fun m e => m.insert e.1 e.2) m).find? k =
      (lookup k l).orElse fun _ => m.find? k := by
  induction l generalizing m with
  | nil => rfl
  | cons e rest ih =>
      rw [List.map_cons, List.nodup_cons] at hl
      rw [List.foldl_cons, ih hl.2, find?_insert]
      by_cases h : e.1 = k
      · subst h
        simp [lookup, lookup_eq_none.mpr hl.1]
      · simp [lookup, h, Ne.symm h]

/-- `for _, v := range src { m[key(v)] = v }` over a slice: a key reads the last element of the
slice under it, or `m` when there is none. -/
theorem find?_foldl_insert_key (key : V → K) (l : List V) (m : GoMap K V) (k : K) :
    (l.foldl (fun m v => m.insert (key v) v) m).find? k =
      (l.reverse.find? fun v => key v = k).orElse fun _ => m.find? k := by
  induction l generalizing m with
  | nil => rfl
  | cons v rest ih =>
      rw [List.foldl_cons, ih, find?_insert, List.reverse_cons, List.find?_append]
      by_cases h : key v = k
      · cases rest.reverse.find? fun v => key v = k <;> simp [h]
      · cases rest.reverse.find? fun v => key v = k <;> simp [h, Ne.symm h]

end GoMap

end GoNms.Go
