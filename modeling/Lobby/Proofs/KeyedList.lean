/-
Lobby/Proofs/KeyedList.lean

Maps counted and compared.

How many values of a map pass a test changes with one key at a time: a key that is put in adds its new
value and takes its old one away (`countP_insert`), a key that is taken out takes its value with it
(`countP_erase`).  Two maps are the same if their pairs are, in the same order, and hold the same
whatever the order (`get?_of_perm`); a key that is put in twice is put in once (`insert_insert`), a value
that its key has already leaves no trace when it is put in (`insert_of_get?_eq_some`), nor does a new key
that is put in and taken out (`erase_insert`), and tests that agree on the pairs leave the same pairs
(`filter_congr`).
-/
import Lobby.KeyedList

namespace Lobby

namespace KeyedList

variable {κ ν : Type} [DecidableEq κ]

/-! ### Counting -/

theorem countP_put (p : ν → Bool) (k : κ) (v : ν) (es : List (κ × ν)) :
    ((put k v es).map Prod.snd).countP p + (find k es).toList.countP p
      = (es.map Prod.snd).countP p + [v].countP p := by
  induction es with
  | nil => simp [put, find]
  | cons e es ih =>
    obtain ⟨k', v'⟩ := e
    by_cases h : k' = k
    · -- the new value stands in the place of the old one
      simp only [put, find, if_pos h, List.map_cons, List.countP_cons, List.countP_nil,
        Option.toList_some]
      omega
    · simp only [put, find, if_neg h, List.map_cons, List.countP_cons, List.countP_nil] at ih ⊢
      omega

/-- A value that is put in is counted instead of the one that its key had before. -/
theorem countP_insert (p : ν → Bool) (m : KeyedList κ ν) (k : κ) (v : ν) :
    (m.insert k v).values.countP p + (m.get? k).toList.countP p
      = m.values.countP p + [v].countP p :=
  countP_put p k v m.entries

theorem countP_filter_key (p : ν → Bool) (k : κ) {es : List (κ × ν)}
    (hn : (es.map Prod.fst).Nodup) :
    ((es.filter fun e => e.1 ≠ k).map Prod.snd).countP p + (find k es).toList.countP p
      = (es.map Prod.snd).countP p := by
  induction es with
  | nil => rfl
  | cons e es ih =>
    obtain ⟨k', v'⟩ := e
    rw [List.map_cons, List.nodup_cons] at hn
    have hrest := ih hn.2
    by_cases h : k' = k
    · -- no later pair has the key
      subst h
      have hnone : find k' es = none := find_eq_none_iff.mpr hn.1
      rw [hnone] at hrest
      rw [List.filter_cons_of_neg (by simp), find, if_pos rfl, List.map_cons, List.countP_cons,
        Option.toList_some, List.countP_singleton]
      exact congrArg (· + _) hrest
    · rw [List.filter_cons_of_pos (by simpa using h), find, if_neg h, List.map_cons, List.map_cons,
        List.countP_cons, List.countP_cons, ← hrest]
      omega

/-- A value that is taken out is no longer counted. -/
theorem countP_erase (p : ν → Bool) (m : KeyedList κ ν) (k : κ) :
    (m.erase k).values.countP p + (m.get? k).toList.countP p = m.values.countP p :=
  countP_filter_key p k m.nodup_keys

/-- Of the keys there is one less, if the one that is taken out is there. -/
theorem size_erase (m : KeyedList κ ν) (k : κ) :
    (m.erase k).size + (m.get? k).toList.length = m.size := by
  have hcount := countP_erase (fun _ => true) m k
  simpa [values, size] using hcount

/-! ### Comparing -/

theorem any_put {f : ν → Bool} {v v' : ν} (h : f v = f v') (k : κ) (es : List (κ × ν)) :
    ((put k v es).map Prod.snd).any f = ((put k v' es).map Prod.snd).any f := by
  induction es with
  | nil => simp [put, h]
  | cons e es ih =>
    obtain ⟨k', w⟩ := e
    by_cases hk : k' = k
    · simp only [put, if_pos hk, List.map_cons, List.any_cons, h]
    · simp only [put, if_neg hk, List.map_cons, List.any_cons, ih]

/-- Of two values that do not differ in a test it does not matter which one is put in. -/
theorem any_insert {f : ν → Bool} {v v' : ν} (h : f v = f v') (m : KeyedList κ ν) (k : κ) :
    (m.insert k v).values.any f = (m.insert k v').values.any f :=
  any_put h k m.entries

/-- What a map holds does not depend on the order of its pairs. -/
theorem get?_of_perm {m m' : KeyedList κ ν} (h : m.entries.Perm m'.entries) (k : κ) :
    m.get? k = m'.get? k := by
  refine Option.ext fun v => ?_
  rw [get?_eq_some_iff, get?_eq_some_iff, h.mem_iff]

omit [DecidableEq κ] in
/-- Maps with the same pairs are the same. -/
theorem ext_entries {m m' : KeyedList κ ν} (h : m.entries = m'.entries) : m = m' := by
  obtain ⟨es, hn⟩ := m
  obtain ⟨es', hn'⟩ := m'
  cases h
  rfl

theorem put_put (k : κ) (v v' : ν) (es : List (κ × ν)) : put k v' (put k v es) = put k v' es := by
  induction es with
  | nil => simp [put]
  | cons e es ih =>
    obtain ⟨k', w⟩ := e
    by_cases h : k' = k
    · simp [put, h]
    · simp [put, h, ih]

/-- Of two values that are put in under one key the later one stays. -/
theorem insert_insert (m : KeyedList κ ν) (k : κ) (v v' : ν) :
    (m.insert k v).insert k v' = m.insert k v' :=
  ext_entries (put_put k v v' m.entries)

theorem put_of_find_eq_some {k : κ} {v : ν} {es : List (κ × ν)} (h : find k es = some v) :
    put k v es = es := by
  induction es with
  | nil => cases h
  | cons e es ih =>
    obtain ⟨k', w⟩ := e
    by_cases hk : k' = k
    · subst hk
      rw [find, if_pos rfl] at h
      cases h
      rw [put, if_pos rfl]
    · rw [find, if_neg hk] at h
      rw [put, if_neg hk, ih h]

/-- A value that a key has already can be put in without a trace. -/
theorem insert_of_get?_eq_some {m : KeyedList κ ν} {k : κ} {v : ν} (h : m.get? k = some v) :
    m.insert k v = m :=
  ext_entries (put_of_find_eq_some h)

theorem put_of_not_mem {k : κ} {v : ν} {es : List (κ × ν)} (h : k ∉ es.map Prod.fst) :
    put k v es = es ++ [(k, v)] := by
  induction es with
  | nil => rfl
  | cons e es ih =>
    obtain ⟨k', w⟩ := e
    rw [List.map_cons, List.mem_cons, not_or] at h
    rw [put, if_neg (Ne.symm h.1), ih h.2, List.cons_append]

theorem filter_of_not_mem {k : κ} {es : List (κ × ν)} (h : k ∉ es.map Prod.fst) :
    (es.filter fun e => e.1 ≠ k) = es := by
  refine List.filter_eq_self.mpr fun e he => ?_
  refine decide_eq_true fun hk => h ?_
  rw [← hk]
  exact List.mem_map_of_mem he

/-- A key that is not there cannot be taken out. -/
theorem erase_of_get?_eq_none {m : KeyedList κ ν} {k : κ} (h : m.get? k = none) : m.erase k = m :=
  ext_entries (filter_of_not_mem (get?_eq_none_iff.mp h))

omit [DecidableEq κ] in
/-- Tests that agree on the pairs of a map leave the same pairs. -/
theorem filter_congr {m : KeyedList κ ν} {p q : κ × ν → Bool} (h : ∀ e ∈ m.entries, p e = q e) :
    m.filter p = m.filter q :=
  ext_entries (List.filter_congr h)

omit [DecidableEq κ] in
theorem filter_filter (m : KeyedList κ ν) (p q : κ × ν → Bool) :
    (m.filter q).filter p = m.filter fun e => p e && q e :=
  ext_entries List.filter_filter

/-- A new key that is put in and taken out again leaves no trace. -/
theorem erase_insert {m : KeyedList κ ν} {k : κ} (h : m.get? k = none) (v : ν) :
    (m.insert k v).erase k = m := by
  have hnew : k ∉ m.entries.map Prod.fst := get?_eq_none_iff.mp h
  refine ext_entries ?_
  show ((put k v m.entries).filter fun e => e.1 ≠ k) = m.entries
  rw [put_of_not_mem hnew, List.filter_append, filter_of_not_mem hnew]
  simp

end KeyedList

end Lobby
