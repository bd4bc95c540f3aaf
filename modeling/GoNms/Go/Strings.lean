import Mathlib.Data.List.Basic
import Mathlib.Data.List.Infix
import Mathlib.Data.List.DropRight

set_option autoImplicit false

/-! # Package `strings`

A Go `string` is modelled by a Lean `String`, the sequence of its Unicode characters. Every string
the modelled code handles is valid UTF-8 (OIDs, database columns, decoded JSON, literals), and on
valid UTF-8 the byte-level operations below agree with the character-level ones: a character
prefix is a byte prefix and `'.'` is never part of a multi-byte sequence.

Only the functions the repository calls are defined, each on the character list. -/

namespace GoNms.Go

/-- `strings.HasPrefix(s, prefix)`. -/
def hasPrefix (s pre : String) : Bool := pre.data.isPrefixOf s.data

/-- `strings.TrimPrefix(s, prefix)`: `s` without a leading `prefix`, or `s` unchanged. -/
def trimPrefix (s pre : String) : String :=
  if hasPrefix s pre then ⟨s.data.drop pre.length⟩ else s

/-- `strings.TrimSuffix(s, suffix)`: `s` without a trailing `suffix`, or `s` unchanged. -/
def trimSuffix (s suf : String) : String :=
  if suf.data.isSuffixOf s.data then ⟨s.data.take (s.length - suf.length)⟩ else s

/-- `strings.Split(s, sep)` for a one-character separator (the code splits on `"."` and `","`):
the pieces between consecutive occurrences of `sep`, so never the empty list. -/
def split (s : String) (sep : Char) : List String := (s.data.splitOn sep).map String.mk

/-- `strings.Join(elems, sep)`. -/
def join (elems : List String) (sep : String) : String := String.intercalate sep elems

/-- `strings.Trim(s, cutset)`: `s` without its longest suffix and then its longest prefix of
characters of `cutset`. -/
def trim (s cutset : String) : String :=
  ⟨(s.data.rdropWhile fun c => decide (c ∈ cutset.data)).dropWhile fun c => decide (c ∈ cutset.data)⟩

/-- `strings.Contains(s, substr)`. -/
def contains (s substr : String) : Bool := decide (substr.data <:+: s.data)

/-- `strings.ReplaceAll(s, old, new)` for a one-character `old` (the code replaces `" "`). -/
def replaceAll (s : String) (old : Char) (new : String) : String :=
  ⟨s.data.flatMap fun c => if c = old then new.data else [c]⟩

/-! ## Prefixes -/

theorem hasPrefix_iff (s pre : String) : hasPrefix s pre = true ↔ pre.data <+: s.data := by
  simp [hasPrefix, List.isPrefixOf_iff_prefix]

theorem trimPrefix_of_data_eq {s pre : String} {rest : List Char}
    (h : s.data = pre.data ++ rest) : trimPrefix s pre = ⟨rest⟩ := by
  have hp : hasPrefix s pre = true := by rw [hasPrefix_iff, h]; exact List.prefix_append _ _
  rw [trimPrefix, if_pos hp, h, show pre.length = pre.data.length from rfl, List.drop_left]

theorem trimPrefix_append {pre rest : String} : trimPrefix (pre ++ rest) pre = rest :=
  trimPrefix_of_data_eq (String.data_append pre rest)

theorem trimPrefix_of_not_prefix {s pre : String} (h : ¬ pre.data <+: s.data) :
    trimPrefix s pre = s := by
  rw [trimPrefix, if_neg (by rwa [hasPrefix_iff])]

/-- Removing a non-empty prefix changes the string. -/
theorem trimPrefix_ne_self_of_prefix {s pre : String} (hne : pre ≠ "") (h : pre.data <+: s.data) :
    trimPrefix s pre ≠ s := by
  have hlen : 0 < pre.data.length := by
    rcases pre with ⟨_ | _⟩
    · exact absurd rfl hne
    · simp
  rw [trimPrefix, if_pos ((hasPrefix_iff s pre).mpr h)]
  intro heq
  have := congrArg (fun t : String => t.data.length) heq
  simp only [List.length_drop, String.length] at this
  have := h.length_le
  omega

/-! ## Splitting joined pieces -/

private theorem intercalate_cons_eq {α : Type} (sep x : List α) (xs : List (List α)) :
    sep.intercalate (x :: xs) = x ++ (xs.map (sep ++ ·)).flatten := by
  induction xs generalizing x with
  | nil => simp [List.intercalate]
  | cons y ys ih =>
      rw [List.intercalate, List.intersperse_cons_cons, List.flatten_cons, List.flatten_cons,
        ← List.intercalate, ih]
      simp

private theorem data_intercalate_go (acc sep : String) (l : List String) :
    (String.intercalate.go acc sep l).data =
      acc.data ++ (l.map (fun a => sep.data ++ a.data)).flatten := by
  induction l generalizing acc with
  | nil => simp [String.intercalate.go]
  | cons a as ih => simp [String.intercalate.go, ih]

theorem data_intercalate (sep : String) (l : List String) :
    (String.intercalate sep l).data = sep.data.intercalate (l.map String.data) := by
  cases l with
  | nil => rfl
  | cons a as =>
      rw [String.intercalate, data_intercalate_go, List.map_cons, intercalate_cons_eq]
      simp [Function.comp_def]

/-- Splitting pieces joined by `sep` gives the pieces back, when none of them contains `sep`. -/
theorem split_intercalate {l : List String} (c : Char) (hl : l ≠ [])
    (hc : ∀ s ∈ l, c ∉ s.data) : split (String.intercalate (String.singleton c) l) c = l := by
  rw [split, data_intercalate, String.data_singleton, List.splitOn_intercalate _ c
    (by simpa using hc) (by simpa using hl), List.map_map]
  exact List.map_id'' (fun _ => rfl) l

/-- No piece of a split holds the separator. -/
theorem not_mem_of_mem_split {s piece : String} {c : Char} (h : piece ∈ split s c) :
    c ∉ piece.data := by
  obtain ⟨l, hl, rfl⟩ := List.mem_map.mp h
  suffices ∀ (xs l : List Char), l ∈ xs.splitOnP (· == c) → c ∉ l from this _ _ hl
  intro xs
  induction xs with
  | nil => simp
  | cons x xs ih =>
      rw [List.splitOnP_cons]
      split
      · simpa using ih
      · next hx =>
          obtain ⟨l₀, ls, hls⟩ := List.exists_cons_of_ne_nil (List.splitOnP_ne_nil (· == c) xs)
          rw [hls, List.modifyHead_cons]
          rintro l (_ | ⟨_, hl⟩)
          · have := ih l₀ (by rw [hls]; exact List.mem_cons_self _ _)
            simp only [beq_iff_eq] at hx
            simpa [Ne.symm hx] using this
          · exact ih l (by rw [hls]; exact List.mem_cons_of_mem _ hl)

/-- Joining the pieces of a split gives the string back. -/
theorem join_split (s : String) (c : Char) : join (split s c) (String.singleton c) = s := by
  apply String.ext
  rw [join, data_intercalate, split, List.map_map, String.data_singleton]
  exact (congrArg _ (List.map_id'' (fun _ => rfl) _)).trans (List.intercalate_splitOn _ _)

/-! ## Searching and replacing -/

theorem singleton_infix_iff {α : Type} {a : α} {l : List α} : [a] <:+: l ↔ a ∈ l :=
  ⟨fun h => h.subset (List.mem_singleton_self a), fun h => by
    obtain ⟨s, t, rfl⟩ := List.append_of_mem h
    exact ⟨s, t, by simp⟩⟩

theorem contains_singleton_iff (s : String) (c : Char) : contains s ⟨[c]⟩ = true ↔ c ∈ s.data := by
  simp only [contains, decide_eq_true_eq, singleton_infix_iff]

theorem mem_replaceAll {s : String} {old : Char} {new : String} {c : Char} :
    c ∈ (replaceAll s old new).data ↔ (c ∈ new.data ∧ old ∈ s.data) ∨ (c ∈ s.data ∧ c ≠ old) := by
  simp only [replaceAll, List.mem_flatMap]
  constructor
  · rintro ⟨d, hd, hc⟩
    split_ifs at hc with hdo
    · exact .inl ⟨hc, hdo ▸ hd⟩
    · obtain rfl := List.mem_singleton.mp hc
      exact .inr ⟨hd, hdo⟩
  · rintro (⟨hc, ho⟩ | ⟨hc, hco⟩)
    · exact ⟨old, ho, by simpa using hc⟩
    · exact ⟨c, hc, by simp [hco]⟩

/-! ## Trimming -/

section Trim

variable {α : Type} {p : α → Bool}

private theorem dropWhile_rdropWhile_cons {a : α} (ha : p a = true) (l : List α) :
    (List.rdropWhile p (a :: l)).dropWhile p = (List.rdropWhile p l).dropWhile p := by
  simp only [List.rdropWhile, List.reverse_cons, List.dropWhile_append]
  split
  · next h =>
      rw [List.isEmpty_iff.mp h]
      simp [List.dropWhile, ha]
  · simp [List.reverse_append, ha]

/-- Trimming leaves a list unchanged exactly when neither end is to be trimmed. -/
private theorem dropWhile_rdropWhile_eq_self_iff (l : List α) :
    (List.rdropWhile p l).dropWhile p = l ↔
      (∀ a ∈ l.head?, p a = false) ∧ ∀ a ∈ l.getLast?, p a = false := by
  constructor
  · intro h
    have hle := (List.dropWhile_suffix p (l := List.rdropWhile p l)).length_le
    have hr : List.rdropWhile p l = l :=
      (List.rdropWhile_prefix p l).eq_of_length (le_antisymm (List.rdropWhile_prefix p l).length_le
        (by rw [h] at hle; exact hle))
    rw [hr] at h
    constructor
    · intro a ha
      cases l with
      | nil => cases ha
      | cons x xs =>
          cases ha
          simpa using List.dropWhile_eq_self_iff.mp h (by simp)
    · intro a ha
      have hl : l ≠ [] := by rintro rfl; cases ha
      rw [List.getLast?_eq_getLast l hl] at ha
      cases ha
      simpa using List.rdropWhile_eq_self_iff.mp hr hl
  · rintro ⟨hhead, hlast⟩
    have hr : List.rdropWhile p l = l := List.rdropWhile_eq_self_iff.mpr fun hl => by
      simpa using hlast _ (List.getLast?_eq_getLast l hl)
    rw [hr, List.dropWhile_eq_self_iff]
    intro hl
    cases l with
    | nil => cases hl
    | cons x xs => simpa using hhead x rfl

end Trim

/-- A character of the cutset at each end is trimmed with the rest. -/
theorem trim_wrap {a b : Char} (s cutset : String) (ha : a ∈ cutset.data) (hb : b ∈ cutset.data) :
    trim ⟨a :: s.data ++ [b]⟩ cutset = trim s cutset := by
  unfold trim
  congr 1
  let p := fun c => decide (c ∈ cutset.data)
  exact (congrArg _ (List.rdropWhile_concat_pos p (a :: s.data) b (decide_eq_true hb))).trans
    (dropWhile_rdropWhile_cons (p := p) (decide_eq_true ha) s.data)

/-- `strings.Trim` leaves `s` unchanged exactly when `s` neither starts nor ends with a character
of the cutset. -/
theorem trim_eq_self_iff (s cutset : String) :
    trim s cutset = s ↔
      (∀ c ∈ s.data.head?, c ∉ cutset.data) ∧ ∀ c ∈ s.data.getLast?, c ∉ cutset.data := by
  rw [trim, String.ext_iff, dropWhile_rdropWhile_eq_self_iff]
  simp only [decide_eq_false_iff_not]

end GoNms.Go
