/-
Lobby/KeyedList.lean

Finite maps as lists of pairs with distinct keys, in the order in which the keys came in.

What a map holds is said through `get?`, and each operation is pinned down by one lemma about it:
`get?_insert`, `get?_erase`, `get?_filter`.  A key that comes in again keeps its place.
-/
namespace Lobby

/-- A finite map: pairs of distinct keys and their values, oldest key first. -/
structure KeyedList (κ ν : Type) where
  entries : List (κ × ν)
  nodup_keys : (entries.map Prod.fst).Nodup

namespace KeyedList

variable {κ ν : Type}

/-! ### Looking up -/

/-- The map without keys. -/
def empty : KeyedList κ ν := ⟨[], List.nodup_nil⟩

instance : Inhabited (KeyedList κ ν) := ⟨empty⟩

/-- The keys, oldest first. -/
def keys (m : KeyedList κ ν) : List κ := m.entries.map Prod.fst

/-- The values, in the order of their keys. -/
def values (m : KeyedList κ ν) : List ν := m.entries.map Prod.snd

/-- How many keys there are. -/
def size (m : KeyedList κ ν) : Nat := m.entries.length

/-- Whether there is no key. -/
def isEmpty (m : KeyedList κ ν) : Bool := m.entries.isEmpty

variable [DecidableEq κ]

/-- The value of the first pair with a given key. -/
def find (k : κ) : List (κ × ν) → Option ν
  | [] => none
  | (k', v) :: rest => if k' = k then some v else find k rest

/-- The value of a key. -/
def get? (m : KeyedList κ ν) (k : κ) : Option ν := find k m.entries

/-- Whether a key is there. -/
def contains (m : KeyedList κ ν) (k : κ) : Bool := (m.get? k).isSome

theorem find_eq_none_iff {k : κ} {es : List (κ × ν)} :
    find k es = none ↔ k ∉ es.map Prod.fst := by
  induction es with
  | nil => simp [find]
  | cons e es ih =>
    obtain ⟨k', v⟩ := e
    by_cases h : k' = k
    · simp [find, h]
    · simp [find, h, ih, Ne.symm h]

theorem find_eq_some_iff {k : κ} {v : ν} {es : List (κ × ν)} (hn : (es.map Prod.fst).Nodup) :
    find k es = some v ↔ (k, v) ∈ es := by
  induction es with
  | nil => simp [find]
  | cons e es ih =>
    obtain ⟨k', v'⟩ := e
    rw [List.map_cons, List.nodup_cons] at hn
    by_cases h : k' = k
    · subst h
      have hmem : (k', v) ∉ es := fun hm => hn.1 (List.mem_map.mpr ⟨_, hm, rfl⟩)
      simp [find, hmem, eq_comm]
    · simp [find, h, ih hn.2, Ne.symm h]

theorem get?_eq_some_iff {m : KeyedList κ ν} {k : κ} {v : ν} :
    m.get? k = some v ↔ (k, v) ∈ m.entries :=
  find_eq_some_iff m.nodup_keys

theorem get?_eq_none_iff {m : KeyedList κ ν} {k : κ} : m.get? k = none ↔ k ∉ m.keys :=
  find_eq_none_iff

/-- The values are those of the keys. -/
theorem mem_values_iff {m : KeyedList κ ν} {v : ν} : v ∈ m.values ↔ ∃ k, m.get? k = some v := by
  simp only [values, List.mem_map, get?_eq_some_iff]
  constructor
  · rintro ⟨⟨k, v'⟩, hmem, rfl⟩
    exact ⟨k, hmem⟩
  · rintro ⟨k, hmem⟩
    exact ⟨(k, v), hmem, rfl⟩

theorem filter_key_eq_find {k : κ} {es : List (κ × ν)} (hn : (es.map Prod.fst).Nodup) :
    (es.filter fun e => e.1 = k) = ((find k es).map (k, ·)).toList := by
  induction es with
  | nil => rfl
  | cons e es ih =>
    obtain ⟨k', v⟩ := e
    rw [List.map_cons, List.nodup_cons] at hn
    by_cases h : k' = k
    · subst h
      have hnone : find k' es = none := find_eq_none_iff.mpr hn.1
      simp [find, ih hn.2, hnone]
    · simp [find, h, ih hn.2]

/-- The pairs with a given key: the one that `get?` finds, if it finds one. -/
theorem filter_key (m : KeyedList κ ν) (k : κ) :
    (m.entries.filter fun e => e.1 = k) = ((m.get? k).map (k, ·)).toList :=
  filter_key_eq_find m.nodup_keys

@[simp] theorem get?_empty (k : κ) : (empty : KeyedList κ ν).get? k = none := rfl

/-! ### Putting in -/

/-- Puts a pair into a list: in the place of its key, or at the end. -/
def put (k : κ) (v : ν) : List (κ × ν) → List (κ × ν)
  | [] => [(k, v)]
  | (k', v') :: rest => if k' = k then (k, v) :: rest else (k', v') :: put k v rest

theorem mem_keys_put {k k' : κ} {v : ν} {es : List (κ × ν)} :
    k' ∈ (put k v es).map Prod.fst ↔ k' = k ∨ k' ∈ es.map Prod.fst := by
  induction es with
  | nil => simp [put]
  | cons e es ih =>
    obtain ⟨k'', v'⟩ := e
    by_cases h : k'' = k
    · simp [put, h]
    · simp only [put, h, if_false, List.map_cons, List.mem_cons, ih]
      exact or_left_comm

theorem nodup_put {k : κ} {v : ν} {es : List (κ × ν)} (hn : (es.map Prod.fst).Nodup) :
    ((put k v es).map Prod.fst).Nodup := by
  induction es with
  | nil => simp [put]
  | cons e es ih =>
    obtain ⟨k', v'⟩ := e
    rw [List.map_cons, List.nodup_cons] at hn
    by_cases h : k' = k
    · subst h
      simpa [put] using hn
    · simp only [put, if_neg h, List.map_cons, List.nodup_cons, mem_keys_put, not_or]
      exact ⟨⟨h, hn.1⟩, ih hn.2⟩

theorem find_put (k k' : κ) (v : ν) (es : List (κ × ν)) :
    find k' (put k v es) = if k = k' then some v else find k' es := by
  induction es with
  | nil => simp [put, find]
  | cons e es ih =>
    obtain ⟨k'', v'⟩ := e
    by_cases h : k'' = k
    · subst h
      by_cases h' : k'' = k' <;> simp [put, find, h']
    · by_cases h' : k'' = k'
      · subst h'
        simp [put, find, h, Ne.symm h]
      · simp [put, find, h, h', ih]

/-- The map in which a key has a given value. -/
def insert (m : KeyedList κ ν) (k : κ) (v : ν) : KeyedList κ ν :=
  ⟨put k v m.entries, nodup_put m.nodup_keys⟩

@[simp] theorem get?_insert (m : KeyedList κ ν) (k k' : κ) (v : ν) :
    (m.insert k v).get? k' = if k = k' then some v else m.get? k' :=
  find_put k k' v m.entries

/-! ### Taking out -/

omit [DecidableEq κ] in
theorem nodup_filter {p : κ × ν → Bool} {es : List (κ × ν)} (hn : (es.map Prod.fst).Nodup) :
    ((es.filter p).map Prod.fst).Nodup :=
  hn.sublist ((List.filter_sublist).map _)

omit [DecidableEq κ] in
/-- The pairs that pass a test. -/
def filter (m : KeyedList κ ν) (p : κ × ν → Bool) : KeyedList κ ν :=
  ⟨m.entries.filter p, nodup_filter m.nodup_keys⟩

theorem get?_filter (m : KeyedList κ ν) (p : κ × ν → Bool) (k : κ) :
    (m.filter p).get? k = (m.get? k).filter fun v => p (k, v) := by
  cases h : m.get? k with
  | none =>
    have hk := get?_eq_none_iff.mp h
    refine get?_eq_none_iff.mpr fun hm => hk ?_
    exact ((List.filter_sublist).map _).subset hm
  | some v =>
    have hv := get?_eq_some_iff.mp h
    cases hp : p (k, v) with
    | true =>
      rw [Option.filter_some, if_pos hp]
      exact get?_eq_some_iff.mpr (List.mem_filter.mpr ⟨hv, hp⟩)
    | false =>
      rw [Option.filter_some, if_neg (by simp [hp])]
      refine get?_eq_none_iff.mpr fun hm => ?_
      obtain ⟨⟨k', v'⟩, hm', rfl⟩ := List.mem_map.mp hm
      obtain ⟨hin, hpass⟩ := List.mem_filter.mp hm'
      have : m.get? k' = some v' := get?_eq_some_iff.mpr hin
      rw [h, Option.some.injEq] at this
      subst this
      simp [hp] at hpass

/-- The map without a key. -/
def erase (m : KeyedList κ ν) (k : κ) : KeyedList κ ν := m.filter fun e => e.1 ≠ k

@[simp] theorem get?_erase (m : KeyedList κ ν) (k k' : κ) :
    (m.erase k).get? k' = if k = k' then none else m.get? k' := by
  rw [erase, get?_filter]
  by_cases h : k = k'
  · subst h
    cases m.get? k <;> simp
  · cases m.get? k' <;> simp [h, Ne.symm h]

end KeyedList

end Lobby
